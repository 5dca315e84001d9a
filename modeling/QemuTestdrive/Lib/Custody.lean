import Mathlib.Data.List.Nodup

/-!
# Nested Custody

A component may hold a host, and while it holds one it may hold a guest made
from it. Hosts are taken and given back, guests are made and dropped. `Held`
is what can be held at one time: a guest comes with its host, so a guest
without one cannot be written down. `Step` is the order in which the four acts
are allowed, and `Path` a whole history of them.

A history that keeps this order accounts for everything it has touched.
`Path.hosts_balance` and `Path.guests_balance` say that what was held before
and what was taken since is what was given back and what is held now, in the
same order. Everything else is read off these two equations and the fact that
a prefix of a history is a history.

## Main definitions

* `Act`: What is done to hosts and guests.
* `Held`: What is held at one time.
* `Step`, `Path`: The order in which acts are allowed.
* `takes`, `gives`, `makes`, `drops`: The acts of one kind, in order.

## Theorems

* `Path.append`, `Path.split`: Histories in two parts.
* `Path.hosts_balance`, `Path.guests_balance`: The accounts of a history.
* `Path.dropped_before_give`: A host is given back after its guests are dropped.
* `Path.made_of_guest`: A guest that is held was made from the host held.
* `Path.give_once`, `Path.drop_once`: At the end of a history that holds nothing,
  everything has been returned once.
-/

namespace Custody

variable {κ ρ : Type*}

/-- What is done to hosts and guests. -/
inductive Act (κ ρ : Type*) where
  | take (k : κ)
  | give (k : κ)
  | make (k : κ) (r : ρ)
  | drop (r : ρ)

/-- What is held at one time. -/
inductive Held (κ ρ : Type*) where
  | nothing
  | host (k : κ)
  | guest (k : κ) (r : ρ)

/-- The host that is held. -/
def Held.hosts : Held κ ρ → List κ
  | .nothing => []
  | .host k => [k]
  | .guest k _ => [k]

/-- The guest that is held. -/
def Held.guests : Held κ ρ → List ρ
  | .nothing => []
  | .host _ => []
  | .guest _ r => [r]

/-- The acts that are allowed, and what is held after them. -/
inductive Step : Held κ ρ → Act κ ρ → Held κ ρ → Prop where
  | take (k : κ) : Step .nothing (.take k) (.host k)
  | give (k : κ) : Step (.host k) (.give k) .nothing
  | make (k : κ) (r : ρ) : Step (.host k) (.make k r) (.guest k r)
  | drop (k : κ) (r : ρ) : Step (.guest k r) (.drop r) (.host k)

/-- A history of allowed acts. -/
inductive Path : Held κ ρ → List (Act κ ρ) → Held κ ρ → Prop where
  | nil (h : Held κ ρ) : Path h [] h
  | cons {h h' h'' : Held κ ρ} {a : Act κ ρ} {as : List (Act κ ρ)} (hstep : Step h a h')
      (hrest : Path h' as h'') : Path h (a :: as) h''

/-- The hosts taken. -/
def takes : List (Act κ ρ) → List κ :=
  List.filterMap fun
    | .take k => some k
    | _ => none

/-- The hosts given back. -/
def gives : List (Act κ ρ) → List κ :=
  List.filterMap fun
    | .give k => some k
    | _ => none

/-- The guests made. -/
def makes : List (Act κ ρ) → List ρ :=
  List.filterMap fun
    | .make _ r => some r
    | _ => none

/-- The guests dropped. -/
def drops : List (Act κ ρ) → List ρ :=
  List.filterMap fun
    | .drop r => some r
    | _ => none

theorem mem_makes {as : List (Act κ ρ)} {r : ρ} : r ∈ makes as ↔ ∃ k, .make k r ∈ as := by
  rw [makes, List.mem_filterMap]
  constructor
  · rintro ⟨a, ha, hr⟩
    cases a with
    | make k q =>
        simp only [Option.some.injEq] at hr
        exact ⟨k, hr ▸ ha⟩
    | _ => simp only [reduceCtorEq] at hr
  · rintro ⟨k, hk⟩
    exact ⟨.make k r, hk, rfl⟩

section Path

variable {h h' h'' : Held κ ρ} {as bs : List (Act κ ρ)}

theorem Path.append (h1 : Path h as h') (h2 : Path h' bs h'') : Path h (as ++ bs) h'' := by
  induction h1 with
  | nil h => exact h2
  | cons hstep _ ih => exact .cons hstep (ih h2)

theorem Path.split {as : List (Act κ ρ)} :
    ∀ {h : Held κ ρ}, Path h (as ++ bs) h'' → ∃ h', Path h as h' ∧ Path h' bs h'' := by
  induction as with
  | nil => intro h hp; exact ⟨h, .nil h, hp⟩
  | cons a as ih =>
      intro h hp
      cases hp with
      | cons hstep hrest =>
          rcases ih hrest with ⟨h', h1, h2⟩
          exact ⟨h', .cons hstep h1, h2⟩

/-- What was held and what was taken is what was given back and what is held. -/
theorem Path.hosts_balance (hp : Path h as h') : h.hosts ++ takes as = gives as ++ h'.hosts := by
  induction hp with
  | nil h => exact List.append_nil _
  | cons hstep _ ih =>
      -- One act moves at most one host from one side to the other.
      cases hstep with
      | take k => exact ih
      | give k => exact congrArg (k :: ·) ih
      | make k r => exact ih
      | drop k r => exact ih

/-- The same for the guests. -/
theorem Path.guests_balance (hp : Path h as h') :
    h.guests ++ makes as = drops as ++ h'.guests := by
  induction hp with
  | nil h => exact List.append_nil _
  | cons hstep _ ih =>
      cases hstep with
      | take k => exact ih
      | give k => exact ih
      | make k r => exact ih
      | drop k r => exact congrArg (r :: ·) ih

/-- When a host is given back, every guest made so far has been dropped. -/
theorem Path.dropped_before_give {k : κ} {pre post : List (Act κ ρ)}
    (hp : Path .nothing (pre ++ .give k :: post) h) : makes pre = drops pre := by
  rcases hp.split with ⟨h', hpre, hpost⟩
  have hbal := hpre.guests_balance
  cases hpost with
  | cons hstep _ =>
      cases hstep with
      | give k => exact hbal.trans (List.append_nil _)

/-- A guest that is held has been made from the host that is held. -/
theorem Path.made_of_guest {k : κ} {r : ρ} (hp : Path h as h') (hguest : h' = .guest k r) :
    h = .guest k r ∨ .make k r ∈ as := by
  induction hp with
  | nil h => exact Or.inl hguest
  | @cons h h' g a as hstep _ ih =>
      rcases ih hguest with rfl | hmem
      · -- Only a guest made just now leads there.
        cases hstep with
        | make => exact Or.inr List.mem_cons_self
      · exact Or.inr (List.mem_cons_of_mem a hmem)

/-- A host that has not been given back is the host held. -/
theorem Path.mem_hosts {k : κ} (hp : Path .nothing as h) (hk : k ∈ takes as)
    (hleft : k ∉ gives as) : k ∈ h.hosts := by
  have hbal : takes as = gives as ++ h.hosts := hp.hosts_balance
  rw [hbal] at hk
  exact (List.mem_append.mp hk).resolve_left hleft

/-- A guest that has not been dropped is the guest held. -/
theorem Path.mem_guests {r : ρ} (hp : Path .nothing as h) (hr : r ∈ makes as)
    (hleft : r ∉ drops as) : r ∈ h.guests := by
  have hbal : makes as = drops as ++ h.guests := hp.guests_balance
  rw [hbal] at hr
  exact (List.mem_append.mp hr).resolve_left hleft

/-- At the end of a history that holds nothing, every host that was taken, and
    no host twice, has been given back once. -/
theorem Path.give_once [DecidableEq κ] {k : κ}
    (hp : Path (.nothing : Held κ ρ) as .nothing) (hnodup : (takes as).Nodup)
    (hk : k ∈ takes as) : (gives as).count k = 1 := by
  have hbal : takes as = gives as := hp.hosts_balance.trans (List.append_nil _)
  rw [← hbal]
  exact List.count_eq_one_of_mem hnodup hk

theorem Path.drop_once [DecidableEq ρ] {r : ρ}
    (hp : Path (.nothing : Held κ ρ) as .nothing) (hnodup : (makes as).Nodup)
    (hr : r ∈ makes as) : (drops as).count r = 1 := by
  have hbal : makes as = drops as := hp.guests_balance.trans (List.append_nil _)
  rw [← hbal]
  exact List.count_eq_one_of_mem hnodup hr

end Path

theorem Held.hosts_unique {h : Held κ ρ} {k k' : κ} (hk : k ∈ h.hosts) (hk' : k' ∈ h.hosts) :
    k = k' := by
  cases h with
  | nothing => exact absurd hk List.not_mem_nil
  | host _ => exact (List.mem_singleton.mp hk).trans (List.mem_singleton.mp hk').symm
  | guest _ _ => exact (List.mem_singleton.mp hk).trans (List.mem_singleton.mp hk').symm

theorem Held.guests_unique {h : Held κ ρ} {r r' : ρ} (hr : r ∈ h.guests) (hr' : r' ∈ h.guests) :
    r = r' := by
  cases h with
  | nothing => exact absurd hr List.not_mem_nil
  | host _ => exact absurd hr List.not_mem_nil
  | guest _ _ => exact (List.mem_singleton.mp hr).trans (List.mem_singleton.mp hr').symm

end Custody
