import MonorepoCheck.Diagnostic.Basic

/-!
Diagnostics grouped by file. Files stand in the order of their names and each stands once;
diagnostics of one file keep the order in which they came.
-/
namespace MonorepoCheck

/-- Lists of values under keys in strictly rising order. -/
abbrev RisingKeys (groups : List (String × α)) : Prop := groups.Pairwise fun a b => a.1 < b.1

structure Findings where
  groups : List (String × List Diagnostic)
  rising : RisingKeys groups
  deriving DecidableEq, Repr

namespace Findings

def empty : Findings := ⟨[], .nil⟩

instance : Inhabited Findings := ⟨empty⟩

/-- Changes the group of a file, which is empty if the file is new. -/
def modifyGroups (file : String) (change : List Diagnostic → List Diagnostic) :
    List (String × List Diagnostic) → List (String × List Diagnostic)
  | [] => [(file, change [])]
  | (other, found) :: rest =>
    if file < other then (file, change []) :: (other, found) :: rest
    else if file = other then (other, change found) :: rest
    else (other, found) :: modifyGroups file change rest

theorem key_of_mem_modifyGroups {file : String} {change : List Diagnostic → List Diagnostic}
    {groups : List (String × List Diagnostic)} {group : String × List Diagnostic}
    (mem : group ∈ modifyGroups file change groups) :
    group.1 = file ∨ ∃ old ∈ groups, old.1 = group.1 := by
  induction groups with
  | nil => simp [modifyGroups] at mem; simp [mem]
  | cons head rest ih =>
    obtain ⟨other, found⟩ := head
    simp only [modifyGroups] at mem
    split at mem
    · rcases List.mem_cons.1 mem with rfl | old
      · exact .inl rfl
      · exact .inr ⟨group, old, rfl⟩
    · split at mem
      · rename_i same
        rcases List.mem_cons.1 mem with rfl | old
        · exact .inl same.symm
        · exact .inr ⟨group, List.mem_cons_of_mem _ old, rfl⟩
      · rcases List.mem_cons.1 mem with rfl | old
        · exact .inr ⟨_, List.mem_cons_self, rfl⟩
        · rcases ih old with same | ⟨kept, keptMem, same⟩
          · exact .inl same
          · exact .inr ⟨kept, List.mem_cons_of_mem _ keptMem, same⟩

theorem rising_modifyGroups (file : String) (change : List Diagnostic → List Diagnostic)
    {groups : List (String × List Diagnostic)} (rising : RisingKeys groups) :
    RisingKeys (modifyGroups file change groups) := by
  induction groups with
  | nil => simp [modifyGroups, RisingKeys]
  | cons head rest ih =>
    obtain ⟨other, found⟩ := head
    have above := (List.pairwise_cons.1 rising).1
    have tail := (List.pairwise_cons.1 rising).2
    simp only [modifyGroups]
    split
    · rename_i before
      refine List.pairwise_cons.2 ⟨fun group mem => ?_, rising⟩
      rcases List.mem_cons.1 mem with rfl | mem
      · exact before
      · exact String.lt_trans before (above group mem)
    · rename_i notBefore
      split
      · exact List.pairwise_cons.2 ⟨above, tail⟩
      · rename_i different
        have after : other < file :=
          Std.lt_of_le_of_ne (String.not_lt.1 notBefore) (Ne.symm different)
        refine List.pairwise_cons.2 ⟨fun group mem => ?_, ih tail⟩
        rcases key_of_mem_modifyGroups mem with same | ⟨old, oldMem, same⟩
        · exact same ▸ after
        · exact same ▸ above old oldMem

def modify (findings : Findings) (file : String)
    (change : List Diagnostic → List Diagnostic) : Findings :=
  ⟨modifyGroups file change findings.groups, rising_modifyGroups file change findings.rising⟩

/-- Adds diagnostics after those the file already has. -/
def append (findings : Findings) (file : String) (found : List Diagnostic) : Findings :=
  findings.modify file (· ++ found)

/-- Groups diagnostics by the file they are in. -/
def ofList (found : List Diagnostic) : Findings :=
  found.foldl (fun findings d => findings.append d.file [d]) empty

/-- The groups of a list that may name files repeatedly; the last list of a file counts. -/
def ofGroups (groups : List (String × List Diagnostic)) : Findings :=
  groups.foldl (fun findings group => findings.modify group.1 fun _ => group.2) empty

/-- All diagnostics, file by file. -/
def toList (findings : Findings) : List Diagnostic := findings.groups.flatMap Prod.snd

/-- The diagnostics of one file. -/
def get (findings : Findings) (file : String) : List Diagnostic :=
  ((findings.groups.find? fun group => group.1 == file).map Prod.snd).getD []

/-- Whether no file has a diagnostic. -/
def isEmpty (findings : Findings) : Bool := findings.groups.all fun group => group.2.isEmpty

end Findings
end MonorepoCheck
