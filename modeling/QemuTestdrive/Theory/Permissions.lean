import QemuTestdrive.Lib.Flags
import QemuTestdrive.Theory.Attributes

/-!
# Permissions and Times

The permissions of a file are nine letters, which a script reads back. On POSIX they
are the low nine bits of the mode. Windows has three of them, for the owner, and
writes the same three for the group and the others.

The times of a link on Windows are made from ticks of 100 nanoseconds since 1601, in
unsigned arithmetic. A time before 1970 wraps there, and the conversion to a signed
number wraps it back.

## Main definitions

* `permLetters`: The letters of the bits.
* `FileTime.ticks`: What a `FILETIME` counts.

## Theorems

* `permissions_iff`: The letters of a mode, by how they read.
* `linkTimes_exact`: The times of a link are the seconds since 1970, by name and in a
  table.
-/

namespace QemuTestdrive

open Flags

/-- The letter of each bit of a mode. -/
def permLetters : List Char :=
  "rwxrwxrwx".toList

section Permissions

/-- A character of `perms` tells one bit. -/
theorem permChar_eq (mode bit : UInt32) (c : Char) (i : Nat) (hbit : bit.toNat = 2 ^ i) :
    permChar mode bit c = if mode.toNat.testBit i then c else '-' := by
  have hand : mode &&& bit = 0 ↔ mode.toNat.testBit i = false := by
    rw [← UInt32.toNat_inj, UInt32.toNat_and, hbit, Nat.and_two_pow]
    cases mode.toNat.testBit i with
    | false => simp
    | true => simp
  unfold permChar
  by_cases hset : mode.toNat.testBit i = true
  · rw [if_pos hset, if_pos (by rw [Ne, hand, hset]; exact Bool.noConfusion)]
  · rw [if_neg hset, if_neg (by rw [Ne, hand, Bool.not_eq_true] at *; simp [hset])]

theorem write_permLetters (n : Nat) :
    write '-' permLetters n =
      [if n.testBit 8 then 'r' else '-', if n.testBit 7 then 'w' else '-',
        if n.testBit 6 then 'x' else '-', if n.testBit 5 then 'r' else '-',
        if n.testBit 4 then 'w' else '-', if n.testBit 3 then 'x' else '-',
        if n.testBit 2 then 'r' else '-', if n.testBit 1 then 'w' else '-',
        if n.testBit 0 then 'x' else '-'] :=
  rfl

theorem posix_perm2string_eq (mode : UInt32) :
    Posix.perm2string mode = write '-' permLetters mode.toNat := by
  unfold Posix.perm2string
  rw [permChar_eq mode 0x100 'r' 8 rfl, permChar_eq mode 0x80 'w' 7 rfl,
    permChar_eq mode 0x40 'x' 6 rfl, permChar_eq mode 0x20 'r' 5 rfl,
    permChar_eq mode 0x10 'w' 4 rfl, permChar_eq mode 0x8 'x' 3 rfl,
    permChar_eq mode 0x4 'r' 2 rfl, permChar_eq mode 0x2 'w' 1 rfl, permChar_eq mode 0x1 'x' 0 rfl,
    write_permLetters]

/-- Three bits that are written three times. -/
theorem testBit_triple : ∀ t < 8, ∀ i < 9, (73 * t).testBit i = t.testBit (i % 3) := by
  decide

theorem windows_perm2string_eq (mode : UInt32) :
    Windows.perm2string mode = write '-' permLetters (73 * (mode.toNat / 64 % 8)) := by
  -- The bits of the owner are the sixth to the eighth.
  have howner : ∀ i < 9, (73 * (mode.toNat / 64 % 8)).testBit i =
      mode.toNat.testBit (i % 3 + 6) := by
    intro i hi
    have hmod : i % 3 < 3 := Nat.mod_lt i (by omega)
    have hdiv : mode.toNat / 64 % 8 = mode.toNat / 2 ^ 6 % 2 ^ 3 := by simp
    rw [testBit_triple _ (Nat.mod_lt _ (by omega)) i hi, hdiv, Nat.testBit_mod_two_pow,
      decide_eq_true hmod, Bool.true_and, Nat.testBit_div_two_pow, Nat.add_comm]
  unfold Windows.perm2string
  rw [permChar_eq mode 0x100 'r' 8 rfl, permChar_eq mode 0x80 'w' 7 rfl,
    permChar_eq mode 0x40 'x' 6 rfl, write_permLetters]
  simp only [howner, Nat.reduceLT, Nat.reduceMod, Nat.reduceAdd]

/-- The letters of a mode are those that read as its low nine bits, and on Windows as
    three times the bits of the owner. -/
theorem permissions_iff (mode : UInt32) (s : List Char) :
    (Posix.perm2string mode = s ↔
      Spelled '-' permLetters s ∧ read '-' s = mode.toNat % 512) ∧
    (Windows.perm2string mode = s ↔
      Spelled '-' permLetters s ∧ read '-' s = 73 * (mode.toNat / 64 % 8)) := by
  have hoff : '-' ∉ permLetters := by decide
  have hlen : 2 ^ permLetters.length = 512 := rfl
  rw [posix_perm2string_eq, windows_perm2string_eq, write_eq_iff hoff, write_eq_iff hoff, hlen,
    Nat.mod_eq_of_lt (show 73 * (mode.toNat / 64 % 8) < 512 by omega)]
  exact ⟨Iff.rfl, Iff.rfl⟩

end Permissions

section Times

open Windows

/-- What a `FILETIME` counts. -/
def Windows.FileTime.ticks (ft : FileTime) : Nat :=
  ft.dwHighDateTime.toNat * 2 ^ 32 + ft.dwLowDateTime.toNat

/-- The seconds since 1970, also where the unsigned difference wraps. -/
theorem toInt_windowsToUnixTime (ft : FileTime) :
    (windowsToUnixTime ft).toInt = (ft.ticks / 10000000 : Nat) - 11644473600 := by
  have hhigh := ft.dwHighDateTime.toNat_lt
  have hlow := ft.dwLowDateTime.toNat_lt
  have hmul : (ft.dwHighDateTime.toUInt64 * 0x100000000).toNat =
      ft.dwHighDateTime.toNat * 2 ^ 32 := by
    rw [UInt64.toNat_mul, UInt32.toNat_toUInt64]
    exact Nat.mod_eq_of_lt (by simp; omega)
  have hquad : (ft.dwHighDateTime.toUInt64 * 0x100000000 + ft.dwLowDateTime.toUInt64).toNat =
      ft.ticks := by
    rw [UInt64.toNat_add, hmul, UInt32.toNat_toUInt64]
    exact Nat.mod_eq_of_lt (by omega)
  -- The quotient is far below half the words, so the sign of the difference is right.
  have hticks : ft.ticks < 2 ^ 64 := by unfold Windows.FileTime.ticks; omega
  have hdiff : ((ft.dwHighDateTime.toUInt64 * 0x100000000 + ft.dwLowDateTime.toUInt64) / 10000000 -
      11644473600).toNat = (2 ^ 64 - 11644473600 + ft.ticks / 10000000) % 2 ^ 64 := by
    rw [UInt64.toNat_sub, UInt64.toNat_div, hquad]
    rfl
  have hcond : (windowsToUnixTime ft).toInt = _ := BitVec.toInt_eq_toNat_cond
    ((ft.dwHighDateTime.toUInt64 * 0x100000000 + ft.dwLowDateTime.toUInt64) / 10000000 -
      11644473600).toBitVec
  rw [hcond, UInt64.toNat_toBitVec, hdiff]
  generalize ft.ticks = n at hticks
  split
  · omega
  · omega

/-- The times of a link are the seconds since 1970, for every `FILETIME`, by name and in
    every table. -/
theorem linkTimes_exact (strerror : Int → List Char)
    (getFileAttributes : List Char → Option FileAttributeData)
    (stat : List Char → Except Int Stat) (errno : Int) (calls : FinalPathCalls)
    (path : List Char) (data : FileAttributeData)
    (hdata : getFileAttributes (cString path) = some data) (hlink : data.reparsePoint = true)
    (key : List Char) (ft : FileTime)
    (hkey : (key, ft) ∈ [("access".toList, data.ftLastAccessTime),
      ("modification".toList, data.ftLastWriteTime), ("change".toList, data.ftCreationTime)]) :
    ∃ t, linkInfo strerror (lstat getFileAttributes stat errno) calls path (.name key) =
        some (.value (.integer t)) ∧
      (∀ arg table, linkInfo strerror (lstat getFileAttributes stat errno) calls path arg =
        some (.table table) → table key = some (.integer t)) ∧
      t.toInt = (ft.ticks / 10000000 : Nat) - 11644473600 := by
  have hname : cString key = key ∧ key ≠ "target".toList ∧
      fileInfo members strerror (lstat getFileAttributes stat errno) path (.name key) =
        .value (.integer (windowsToUnixTime ft)) := by
    simp only [List.mem_cons, Prod.mk.injEq, List.not_mem_nil, or_false] at hkey
    unfold fileInfo lstat
    simp only [hdata, hlink, if_true]
    rcases hkey with ⟨rfl, rfl⟩ | ⟨rfl, rfl⟩ | ⟨rfl, rfl⟩
    · exact ⟨rfl, by decide, rfl⟩
    · exact ⟨rfl, by decide, rfl⟩
    · exact ⟨rfl, by decide, rfl⟩
  rcases hname with ⟨hplain, hne, hvalue⟩
  refine ⟨windowsToUnixTime ft, ?_, fun arg table htable => ?_, toInt_windowsToUnixTime ft⟩
  · have harg : (InfoArg.name key).isTarget = false := by
      rw [InfoArg.isTarget, hplain]
      exact beq_eq_false_iff_ne.mpr hne
    unfold linkInfo
    rw [if_neg (by rw [harg]; exact Bool.false_ne_true), hvalue]
  · rcases windows_linkInfo_table _ _ _ htable with ⟨t₀, hinfo, hkeep⟩
    rw [hkeep key hne]
    exact (fileInfo_agrees _ _ _ members_nodup_windows).stored (fileInfo_name_ne _ _ _) hinfo
      hplain hvalue

/-- The first time there is. -/
theorem linkTimes_exact_first :
    ∃ t, linkInfo (fun _ => []) (lstat (fun _ => some ⟨true, ⟨0, 0⟩, ⟨0, 0⟩, ⟨0, 0⟩⟩)
        (fun _ => .error 2) 0) openedFile ['l'] (.name "change".toList) =
        some (.value (.integer t)) ∧
      (∀ arg table, linkInfo (fun _ => []) (lstat
        (fun _ => some ⟨true, ⟨0, 0⟩, ⟨0, 0⟩, ⟨0, 0⟩⟩) (fun _ => .error 2) 0) openedFile ['l'] arg =
        some (.table table) → table "change".toList = some (.integer t)) ∧
      t.toInt = ((⟨0, 0⟩ : FileTime).ticks / 10000000 : Nat) - 11644473600 :=
  linkTimes_exact (fun _ => []) (fun _ => some ⟨true, ⟨0, 0⟩, ⟨0, 0⟩, ⟨0, 0⟩⟩) (fun _ => .error 2) 0
    openedFile ['l'] _ rfl rfl "change".toList ⟨0, 0⟩ (by simp)

end Times

end QemuTestdrive
