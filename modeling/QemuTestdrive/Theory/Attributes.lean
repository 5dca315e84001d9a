import QemuTestdrive.Core.Attributes
import QemuTestdrive.Theory.Paths

/-!
# Attributes by Name and in a Table

A script can ask for one attribute of a file, or for a table of all of them. The two
ways are separate branches over one list of members, and `link_info` has a branch of
its own for the target of a link. `AttributesAgree` says that they give the same:
what the table holds at a key is what the key gives by itself, and a key that gives
nothing keeps what the table held before. The tables are plain ones: one whose
metatable has a `__newindex` is asked to keep the target, and need not.

It holds of both systems but for one case. When Windows cannot open a file,
`push_link_target` returns the number of its results for an error, and its callers
take any number but zero for a success. By name, the message of the error comes back
as the target. A table is not returned at all.

## Main definitions

* `AttributesAgree`: The two ways of asking give the same.
* `withTarget`: A target beside the members.

## Theorems

* `storeMembers_eq`: A table with all members.
* `fileInfo_agrees`, `withTarget_agrees`: Members, and a target beside them.
* `attributes_agree`: Both functions on both systems.
* `windowsTarget_iff`: What Windows gives as a target.
-/

namespace QemuTestdrive

/-- The value a call gives back, if it is one. -/
def InfoResult.item : InfoResult → Option LuaItem
  | .value v => some v
  | _ => none

/-- What the table holds at a key is what the key gives by name, or what the table held
    before. Without a table it is as for an empty one, and whether there is a table as
    the result or the message of a failure does not depend on the one that is given. -/
structure AttributesAgree (info : InfoArg → InfoResult) : Prop where
  byName : ∀ t t' key, cString key = key → info (.table t) = .table t' →
    t' key = ((info (.name key)).item).or (t key)
  fresh : info .other = info (.table fun _ => none)
  same : (∀ t, ∃ t', info (.table t) = .table t') ∨
    ∃ message errno, ∀ t, info (.table t) = .failed message errno

/-- A value that is given by name is in every table that is given. -/
theorem AttributesAgree.stored {info : InfoArg → InfoResult} (h : AttributesAgree info)
    (hname : ∀ s t, info (.name s) ≠ .table t) {arg : InfoArg} {t : LuaTable}
    (harg : info arg = .table t) {key : List Char} (hkey : cString key = key) {v : LuaItem}
    (hv : info (.name key) = .value v) : t key = some v := by
  cases arg with
  | name s => exact absurd harg (hname s t)
  | table t₀ =>
      rw [h.byName t₀ t key hkey harg, hv]
      rfl
  | other =>
      rw [h.byName (fun _ => none) t key hkey (h.fresh.symm.trans harg), hv]
      rfl

section Members

variable {members : List (List Char × (Stat → LuaItem))}

/-- Every key is that of one member, which is stored there. -/
theorem storeMembers_eq (hnodup : (members.map Prod.fst).Nodup) (info : Stat) (t : LuaTable)
    (key : List Char) :
    storeMembers members info t key =
      ((members.find? fun m => m.1 = key).map fun m => m.2 info).or (t key) := by
  unfold storeMembers
  induction members generalizing t with
  | nil => rfl
  | cons m ms ih =>
      rw [List.map_cons, List.nodup_cons] at hnodup
      rw [List.foldl_cons, ih hnodup.2, List.find?_cons]
      by_cases hkey : m.1 = key
      · -- None of the later members is stored at the same key.
        have hnone : ms.find? (fun m => m.1 = key) = none := by
          rw [List.find?_eq_none]
          intro m' hm' heq
          refine hnodup.1 (List.mem_map.mpr ⟨m', hm', ?_⟩)
          exact (of_decide_eq_true heq).trans hkey.symm
        simp [hnone, hkey]
      · simp [hkey, Function.update_of_ne (Ne.symm hkey)]

variable (strerror : Int → List Char) (st : List Char → Except Int Stat) (path : List Char)

theorem fileInfo_name_ne (s : List Char) (t : LuaTable) :
    fileInfo members strerror st path (.name s) ≠ .table t := by
  unfold fileInfo
  simp only
  split
  · exact InfoResult.noConfusion
  · split
    · exact InfoResult.noConfusion
    · exact InfoResult.noConfusion

/-- The members by name and in a table. -/
theorem fileInfo_agrees (hnodup : (members.map Prod.fst).Nodup) :
    AttributesAgree (fileInfo members strerror st path) := by
  unfold fileInfo
  rcases hst : st (cString path) with errno | info
  · refine ⟨fun t t' key _ h => InfoResult.noConfusion h, rfl, Or.inr ⟨_, _, fun t => rfl⟩⟩
  · refine ⟨fun t t' key hkey h => ?_, rfl, Or.inl fun t => ⟨_, rfl⟩⟩
    simp only [InfoResult.table.injEq] at h
    rw [← h, storeMembers_eq hnodup]
    simp only [hkey]
    cases members.find? fun m => m.1 = key with
    | none => rfl
    | some m => rfl

end Members

/-- A target beside the members: what it gives by name, and a table with it. -/
def withTarget (info : InfoArg → InfoResult) (byName : InfoResult)
    (store : LuaTable → InfoResult) (arg : InfoArg) : InfoResult :=
  if arg.isTarget then byName
  else
    match info arg with
    | .table t => store t
    | r => r

/-- A table with the target, if there is one. -/
def storeTarget (target : Option (List Char)) (t : LuaTable) : LuaTable :=
  match target with
  | some target => Function.update t "target".toList (some (.text target))
  | none => t

section Target

variable {info : InfoArg → InfoResult}

/-- The target by name and in a table. -/
theorem withTarget_agrees (h : AttributesAgree info)
    (hname : ∀ s t, info (.name s) ≠ .table t) (hnone : (info (.name "target".toList)).item = none)
    (target : Option (List Char)) {failed : InfoResult} (hfailed : failed.item = none) :
    AttributesAgree (withTarget info (target.elim failed fun s => .value (.text s))
      fun t => .table (storeTarget target t)) := by
  have hother : ∀ arg t', InfoArg.isTarget arg = false → info arg = .table t' →
      withTarget info (target.elim failed fun s => .value (.text s))
        (fun t => .table (storeTarget target t)) arg = .table (storeTarget target t') := by
    intro arg t' harg hinfo
    rw [withTarget, harg, hinfo]
    rfl
  have hfails : ∀ arg message errno, InfoArg.isTarget arg = false →
      info arg = .failed message errno →
      withTarget info (target.elim failed fun s => .value (.text s))
        (fun t => .table (storeTarget target t)) arg = .failed message errno := by
    intro arg message errno harg hinfo
    rw [withTarget, harg, hinfo]
    rfl
  refine ⟨fun t t' key hkey hresult => ?_, ?_, ?_⟩
  · rcases h.same with hsame | ⟨message, errno, hsame⟩
    · rcases hsame t with ⟨t₀, ht₀⟩
      have hmembers := h.byName t t₀ key hkey ht₀
      rw [hother (.table t) t₀ rfl ht₀, InfoResult.table.injEq] at hresult
      rw [← hresult]
      by_cases htarget : key = "target".toList
      · -- The members have no target, so the table has the one that was stored, if any.
        have harg : (InfoArg.name key).isTarget = true := by
          rw [InfoArg.isTarget, hkey, htarget]
          exact beq_self_eq_true _
        rw [withTarget, harg, if_pos rfl]
        rw [htarget] at hmembers ⊢
        rw [hnone, Option.none_or] at hmembers
        cases target with
        | none =>
            rw [Option.elim_none, hfailed, Option.none_or]
            exact hmembers
        | some s => simp [storeTarget, InfoResult.item]
      · have harg : (InfoArg.name key).isTarget = false := by
          rw [InfoArg.isTarget, hkey]
          exact beq_eq_false_iff_ne.mpr htarget
        have hname' : withTarget info (target.elim failed fun s => .value (.text s))
            (fun t => .table (storeTarget target t)) (.name key) = info (.name key) := by
          rw [withTarget, harg, if_neg Bool.false_ne_true]
          split
          · rename_i t₁ ht₁
            exact absurd ht₁ (hname key t₁)
          · rfl
        rw [hname', ← hmembers]
        cases target with
        | none => rfl
        | some s => exact Function.update_of_ne htarget (some (LuaItem.text s)) t₀
    · rw [hfails (.table t) message errno rfl (hsame t)] at hresult
      exact InfoResult.noConfusion hresult
  · rcases h.same with hsame | ⟨message, errno, hsame⟩
    · rcases hsame fun _ => none with ⟨t₀, ht₀⟩
      rw [hother _ t₀ rfl (h.fresh.trans ht₀), hother _ t₀ rfl ht₀]
    · rw [hfails _ message errno rfl (h.fresh.trans (hsame _)), hfails _ message errno rfl (hsame _)]
  · refine h.same.imp (fun hsame t => ?_) fun ⟨message, errno, hsame⟩ =>
      ⟨message, errno, fun t => hfails _ message errno rfl (hsame t)⟩
    rcases hsame t with ⟨t₀, ht₀⟩
    exact ⟨_, hother _ t₀ rfl ht₀⟩

end Target

section Systems

theorem members_nodup_posix : (Posix.members.map Prod.fst).Nodup := by
  decide

theorem members_nodup_windows : (Windows.members.map Prod.fst).Nodup := by
  decide

variable (strerror : Int → List Char) (lstat : List Char → Except Int Stat) (path : List Char)

/-- None of the members is the target. -/
theorem fileInfo_target_item {members : List (List Char × (Stat → LuaItem))}
    (hnot : "target".toList ∉ members.map Prod.fst) :
    (fileInfo members strerror lstat path (.name "target".toList)).item = none := by
  have hname : cString "target".toList = "target".toList := by decide
  have hfind : members.find? (fun m => m.1 = "target".toList) = none := by
    rw [List.find?_eq_none]
    intro m hm heq
    exact hnot (List.mem_map.mpr ⟨m, hm, of_decide_eq_true heq⟩)
  unfold fileInfo
  cases lstat (cString path) with
  | error errno => rfl
  | ok info =>
      simp only [hname, hfind]
      rfl

/-- `link_info` on POSIX has the members and the target of the link. -/
theorem posix_linkInfo_eq {calls : LinkCalls} {r : Option (List Char)} {b : Growing.Buffer}
    (hr : Posix.pushLinkTarget calls 24 = some (r, b)) (arg : InfoArg) :
    Posix.linkInfo strerror lstat calls path arg =
      some (withTarget (fileInfo Posix.members strerror lstat path)
        (r.elim (linkError strerror calls.errno) fun s => .value (.text s))
        (fun t => .table (storeTarget r t)) arg) := by
  unfold Posix.linkInfo withTarget
  rw [hr]
  by_cases harg : arg.isTarget = true
  · rw [if_pos harg, if_pos harg]
    cases r with
    | none => rfl
    | some s => rfl
  · rw [if_neg harg, if_neg harg]
    cases fileInfo Posix.members strerror lstat path arg with
    | table t =>
        cases r with
        | none => rfl
        | some s => rfl
    | value v => rfl
    | failed message errno => rfl
    | raised message => rfl

/-- `link_info` on Windows is the same while the file can be opened. -/
theorem windows_linkInfo_eq {calls : FinalPathCalls} {target : Option (List Char)}
    {b : Growing.Buffer} (hr : Windows.pushLinkTarget calls 24 = some (.opened target, b))
    (arg : InfoArg) :
    Windows.linkInfo strerror lstat calls path arg =
      some (withTarget (fileInfo Windows.members strerror lstat path)
        (target.elim (linkError strerror calls.errno) fun s => .value (.text s))
        (fun t => .table (storeTarget target t)) arg) := by
  unfold Windows.linkInfo withTarget
  rw [hr]
  by_cases harg : arg.isTarget = true
  · rw [if_pos harg, if_pos harg]
    cases target with
    | none => rfl
    | some s => rfl
  · rw [if_neg harg, if_neg harg]
    cases fileInfo Windows.members strerror lstat path arg with
    | table t =>
        cases target with
        | none => rfl
        | some s => rfl
    | value v => rfl
    | failed message errno => rfl
    | raised message => rfl

/-- A file that cannot be opened has the message for a target, and no table. -/
theorem windows_linkInfo_refused {calls : FinalPathCalls} {en : Int} {b : Growing.Buffer}
    (hr : Windows.pushLinkTarget calls 24 = some (.refused en, b)) (arg : InfoArg) :
    Windows.linkInfo strerror lstat calls path arg =
      some (withTarget (fileInfo Windows.members strerror lstat path)
        (.value (.text (Windows.win32Error strerror en)))
        (fun _ => .raised "attempt to index a nil value".toList) arg) := by
  unfold Windows.linkInfo withTarget
  rw [hr]
  by_cases harg : arg.isTarget = true
  · rw [if_pos harg, if_pos harg]
    rfl
  · rw [if_neg harg, if_neg harg]
    cases fileInfo Windows.members strerror lstat path arg with
    | table t => rfl
    | value v => rfl
    | failed message errno => rfl
    | raised message => rfl

/-- A table of `link_info` on Windows has the members at every key but the target. -/
theorem windows_linkInfo_table {calls : FinalPathCalls} {arg : InfoArg} {t : LuaTable}
    (h : Windows.linkInfo strerror lstat calls path arg = some (.table t)) :
    ∃ t₀, fileInfo Windows.members strerror lstat path arg = .table t₀ ∧
      ∀ key, key ≠ "target".toList → t key = t₀ key := by
  unfold Windows.linkInfo at h
  by_cases harg : arg.isTarget = true
  · -- By its name the target is a value or a failure.
    rw [if_pos harg] at h
    rcases Option.map_eq_some_iff.mp h with ⟨⟨r, b⟩, _, hr⟩
    rcases r with (_ | target) | en
    · exact InfoResult.noConfusion hr
    · exact InfoResult.noConfusion hr
    · exact InfoResult.noConfusion hr
  · rw [if_neg harg] at h
    rcases hinfo : fileInfo Windows.members strerror lstat path arg with v | t₀ | ⟨m, e⟩ | m
    · rw [hinfo] at h
      exact InfoResult.noConfusion (Option.some.inj h)
    · rw [hinfo] at h
      rcases Option.map_eq_some_iff.mp h with ⟨⟨r, b⟩, _, hr⟩
      refine ⟨t₀, rfl, fun key hkey => ?_⟩
      rcases r with (_ | target) | en
      · rw [InfoResult.table.inj hr]
      · rw [← InfoResult.table.inj hr, Function.update_of_ne hkey]
      · exact InfoResult.noConfusion hr
    · rw [hinfo] at h
      exact InfoResult.noConfusion (Option.some.inj h)
    · rw [hinfo] at h
      exact InfoResult.noConfusion (Option.some.inj h)

/-- Without the target's name, `withTarget` fails as the members do. -/
theorem agrees_refused_iff {members : List (List Char × (Stat → LuaItem))} (v : LuaItem)
    (message : List Char) :
    AttributesAgree (withTarget (fileInfo members strerror lstat path) (.value v)
      fun _ => .raised message) ↔ ∃ errno, lstat (cString path) = .error errno := by
  unfold withTarget fileInfo
  rcases hst : lstat (cString path) with errno | info
  · refine ⟨fun _ => ⟨errno, rfl⟩, fun _ => ⟨fun t t' key _ h => InfoResult.noConfusion h, rfl,
      Or.inr ⟨_, _, fun t => rfl⟩⟩⟩
  · -- The members are there, but the table is lost with the target.
    refine ⟨fun h => ?_, fun ⟨errno, h⟩ => (nomatch h)⟩
    rcases h.same with hsame | ⟨message', errno, hsame⟩
    · rcases hsame fun _ => none with ⟨t', ht'⟩
      exact InfoResult.noConfusion ht'
    · exact InfoResult.noConfusion (hsame fun _ => none)

end Systems

/-- By name and in a table without a metatable, `lfs.attributes` and
    `lfs.symlinkattributes` give the same. On Windows that takes a link that can be
    opened, or none at all. -/
theorem attributes_agree (strerror : Int → List Char) (stat lstat : List Char → Except Int Stat)
    (path : List Char) (linkCalls : LinkCalls) (finalCalls : FinalPathCalls)
    (hhuge : ∀ k (size : UInt64), 2 ^ 63 ≤ size.toNat → linkCalls.realloc k size = false)
    (hpath : ∀ k p, finalCalls.finalPath k = some p → p.length < 2 ^ 15) :
    AttributesAgree (fileInfo Posix.members strerror stat path) ∧
      AttributesAgree (fileInfo Windows.members strerror stat path) ∧
      (∃ info, (∀ arg, Posix.linkInfo strerror lstat linkCalls path arg = some (info arg)) ∧
        AttributesAgree info) ∧
      ∃ info, (∀ arg, Windows.linkInfo strerror lstat finalCalls path arg = some (info arg)) ∧
        (AttributesAgree info ↔
          finalCalls.createFile = none ∨ ∃ errno, lstat (cString path) = .error errno) := by
  have hposix := fileInfo_agrees strerror lstat path members_nodup_posix
  have hwindows := fileInfo_agrees strerror lstat path members_nodup_windows
  refine ⟨fileInfo_agrees strerror stat path members_nodup_posix,
    fileInfo_agrees strerror stat path members_nodup_windows, ?_, ?_⟩
  · rcases Posix.pushLinkTarget_ends linkCalls hhuge with ⟨r, b, hr, _⟩
    exact ⟨_, posix_linkInfo_eq strerror lstat path hr,
      withTarget_agrees hposix (fileInfo_name_ne strerror lstat path)
        (fileInfo_target_item strerror lstat path (by decide)) r rfl⟩
  · rcases Windows.pushLinkTarget_ends finalCalls hpath with ⟨r, b, hr, _, hrefused, _⟩
    cases r with
    | opened target =>
        refine ⟨_, windows_linkInfo_eq strerror lstat path hr, iff_of_true ?_ (Or.inl ?_)⟩
        · exact withTarget_agrees hwindows (fileInfo_name_ne strerror lstat path)
            (fileInfo_target_item strerror lstat path (by decide)) target rfl
        · cases hcreate : finalCalls.createFile with
          | none => rfl
          | some en => exact Windows.LinkReturn.noConfusion ((hrefused en).mpr hcreate)
    | refused en =>
        refine ⟨_, windows_linkInfo_refused strerror lstat path hr, ?_⟩
        rw [agrees_refused_iff, (hrefused en).mp rfl]
        simp

/-- A link, as `lstat` sees it. -/
def linkStat : Stat :=
  { stMode := 0xA1FF, stDev := 8, stIno := 12, stNlink := 1, stUid := 0, stGid := 0, stRdev := 0
    stAtime := 3, stMtime := 2, stCtime := 1, stSize := 1, stBlocks := 0, stBlksize := 512 }

/-- The target of a link that can be read. -/
def readLink : LinkCalls :=
  { realloc := fun _ size => decide (size.toNat < 2 ^ 63), readlink := fun _ => some ['d']
    errno := 0 }

/-- The path of a file that Windows can open. -/
def openedFile : FinalPathCalls :=
  { createFile := none, realloc := fun _ _ => true
    finalPath := fun _ => some "\\\\?\\C:\\d".toList, errno := 0 }

/-- A link to `d` that both systems can follow. -/
theorem attributes_agree_link :
    AttributesAgree (fileInfo Posix.members (fun _ => []) (fun _ => .ok linkStat) ['l']) ∧
      AttributesAgree (fileInfo Windows.members (fun _ => []) (fun _ => .ok linkStat) ['l']) ∧
      (∃ info, (∀ arg, Posix.linkInfo (fun _ => []) (fun _ => .ok linkStat) readLink ['l'] arg =
          some (info arg)) ∧ AttributesAgree info) ∧
      ∃ info, (∀ arg, Windows.linkInfo (fun _ => []) (fun _ => .ok linkStat) openedFile ['l'] arg =
          some (info arg)) ∧
        (AttributesAgree info ↔ openedFile.createFile = none ∨
          ∃ errno : Int, (.ok linkStat : Except Int Stat) = .error errno) :=
  attributes_agree (fun _ => []) (fun _ => .ok linkStat) (fun _ => .ok linkStat) ['l'] readLink
    openedFile (fun _ _ hsize => decide_eq_false (Nat.not_lt.mpr hsize))
    fun _ p hp => by rw [← Option.some.inj hp]; decide

example : Posix.linkInfo (fun _ => []) (fun _ => .ok linkStat) readLink ['l']
    (.name "target".toList) = some (.value (.text ['d'])) := by
  rfl

/-- What Windows gives as the target of a link is the path it has for the file without
    its prefix, nothing when it has none, or the message when the file cannot be
    opened. -/
theorem windowsTarget_iff (strerror : Int → List Char) (lstat : List Char → Except Int Stat)
    (path : List Char) (calls : FinalPathCalls)
    (hpath : ∀ k p, calls.finalPath k = some p → p.length < 2 ^ 15) (t : List Char) :
    Windows.linkInfo strerror lstat calls path (.name "target".toList) =
        some (.value (.text t)) ↔
      (calls.createFile = none ∧ ∃ n, Windows.FinalAt calls n t) ∨
        ∃ en, calls.createFile = some en ∧ Windows.win32Error strerror en = t := by
  have harg : (InfoArg.name "target".toList).isTarget = true := by decide
  rcases Windows.pushLinkTarget_ends calls hpath with ⟨r, b, hr, _, hrefused, hopened⟩
  cases r with
  | opened target =>
      have hcreate : ∀ en, calls.createFile ≠ some en := fun en h =>
        Windows.LinkReturn.noConfusion ((hrefused en).mpr h)
      rw [windows_linkInfo_eq strerror lstat path hr, withTarget, if_pos harg, ← hopened]
      cases target with
      | none => simp [linkError, hcreate]
      | some s => simp [hcreate]
  | refused en =>
      have hcreate := (hrefused en).mp rfl
      rw [windows_linkInfo_refused strerror lstat path hr, withTarget, if_pos harg]
      simp [hcreate]

/-- A path with a prefix. -/
theorem windowsTarget_iff_prefix :
    Windows.linkInfo (fun _ => []) (fun _ => .error 2)
        { createFile := none, realloc := fun _ _ => true
          finalPath := fun _ => some "\\\\?\\C:\\d".toList, errno := 0 } ['l'] (.name "target".toList) =
        some (.value (.text "C:\\d".toList)) ↔
      ((none : Option Int) = none ∧ ∃ n, Windows.FinalAt
        { createFile := none, realloc := fun _ _ => true
          finalPath := fun _ => some "\\\\?\\C:\\d".toList, errno := 0 } n "C:\\d".toList) ∨
        ∃ en, (none : Option Int) = some en ∧
          Windows.win32Error (fun _ => []) en = "C:\\d".toList :=
  windowsTarget_iff (fun _ => []) (fun _ => .error 2) ['l'] _
    (fun _ p hp => by rw [← Option.some.inj hp]; decide) _

end QemuTestdrive
