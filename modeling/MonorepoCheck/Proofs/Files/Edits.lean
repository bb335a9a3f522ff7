import Mathlib.Logic.Relation
import MonorepoCheck.Host
import MonorepoCheck.Proofs.Files.Walks

/-!
Edits of a tree of files under a clock that never runs back. Whatever is done to a tree in this way,
a file of it either stood there before or carries a time since then.
-/
namespace MonorepoCheck

namespace Instant

/-- Not after: the same instant or an earlier one. -/
def NotAfter (a b : Instant) : Prop := a.isAfter b = false

theorem notAfter_iff (a b : Instant) :
    NotAfter a b ↔ a.seconds < b.seconds ∨ a.seconds = b.seconds ∧ a.nanos ≤ b.nanos := by
  simp only [NotAfter, isAfter, Bool.or_eq_false_iff, Bool.and_eq_false_iff, decide_eq_false_iff_not,
    beq_eq_false_iff_ne]
  omega

theorem NotAfter.refl (a : Instant) : NotAfter a a := by
  rw [notAfter_iff]
  exact .inr ⟨rfl, Nat.le_refl _⟩

theorem NotAfter.trans {a b c : Instant} (first : NotAfter a b) (second : NotAfter b c) :
    NotAfter a c := by
  rw [notAfter_iff] at *
  omega

theorem NotAfter.antisymm {a b : Instant} (first : NotAfter a b) (second : NotAfter b a) : a = b := by
  rw [notAfter_iff] at first second
  exact Instant.ext (by omega) (by omega)

end Instant

open FileTree

/-- A tree at a moment. -/
abbrev Moment := FileTree × Instant

/-- What a person or a program does to the files. What is written carries the present time. -/
inductive Edit : Moment → Moment → Prop where
  | write {tree : FileTree} {now : Instant} (place : Location) (content : ByteArray)
      (free : tree.entry? place ≠ some .directory) :
      Edit (tree, now) (tree.put place (.file content now), now)
  | makeDirectory {tree : FileTree} {now : Instant} (place : Location)
      (free : tree.entry? place = none) : Edit (tree, now) (tree.put place .directory, now)
  | remove {tree : FileTree} {now : Instant} (place : Location) (some' : place ≠ []) :
      Edit (tree, now) (tree.erase place, now)
  | wait {tree : FileTree} {now later : Instant} (forward : now.NotAfter later) :
      Edit (tree, now) (tree, later)

/-- No file but those that stood before, and those written since. -/
structure Aged (before after : Moment) : Prop where
  clock : before.2.NotAfter after.2
  files : ∀ place content time, FileTree.entry? after.1 place = some (.file content time) →
    FileTree.entry? before.1 place = some (.file content time) ∨ before.2.NotAfter time

namespace Aged

variable {first middle last : Moment}

theorem refl (moment : Moment) : Aged moment moment :=
  ⟨.refl _, fun _ _ _ standing => .inl standing⟩

theorem trans (early : Aged first middle) (late : Aged middle last) : Aged first last := by
  constructor
  case clock => exact early.clock.trans late.clock
  case files =>
      intro place content time standing
      rcases late.files place content time standing with stood | new
      · exact early.files place content time stood
      · exact .inr (early.clock.trans new)

/-- A file is put somewhere at the present time. -/
theorem put {tree : FileTree} {now : Instant} {place : Location} (content : ByteArray)
    (some' : place ≠ []) : Aged (tree, now) (tree.put place (.file content now), now) := by
  constructor
  case clock => exact .refl now
  case files =>
      intro other written time standing
      rw [entry?_put _ some'] at standing
      split at standing
      · obtain ⟨_, rfl⟩ := Entry.file.inj (Option.some.inj standing)
        exact .inr (.refl _)
      · exact .inl standing

theorem erase {tree : FileTree} {now : Instant} {place : Location} (some' : place ≠ []) :
    Aged (tree, now) (tree.erase place, now) := by
  constructor
  case clock => exact .refl now
  case files =>
      intro other content time standing
      rw [entry?_erase some'] at standing
      split at standing
      · cases standing
      · exact .inl standing

theorem gains {tree later : FileTree} {now : Instant} (gains : GainsDirectories tree later) :
    Aged (tree, now) (later, now) := by
  constructor
  case clock => exact .refl now
  case files =>
      intro place content time standing
      rcases gains.entry?_eq place with same | ⟨_, directory⟩
      · exact .inl (same ▸ standing)
      · rw [directory] at standing
        cases standing

end Aged

theorem Edit.aged {before after : Moment} (edit : Edit before after) : Aged before after := by
  cases edit with
  | write place content free => exact .put content (nonempty_of_entry free)
  | makeDirectory place free => exact .gains (.put_directory free)
  | remove place some' => exact .erase some'
  | wait forward => exact ⟨forward, fun _ _ _ standing => .inl standing⟩

theorem Aged.ofEdits {before after : Moment} (steps : Relation.ReflTransGen Edit before after) :
    Aged before after := by
  induction steps with
  | refl => exact .refl before
  | tail _ edit ih => exact ih.trans edit.aged

/-- What a host is at a moment. -/
def Host.moment (host : Host) : Moment := (host.files, host.now)

/-- Nothing happened to a machine but edits of its files, one after the other, while time went on. -/
structure Edits (host later : Host) : Prop where
  here : later.here = host.here
  steps : Relation.ReflTransGen Edit host.moment later.moment

/-- A machine some time later, as far as its files go. -/
structure Later (host later : Host) : Prop where
  here : later.here = host.here
  aged : Aged host.moment later.moment

theorem Edits.refl (host : Host) : Edits host host := ⟨rfl, .refl⟩

theorem Edits.later {host later : Host} (edits : Edits host later) : Later host later :=
  ⟨edits.here, .ofEdits edits.steps⟩

namespace Later

variable {host middle last : Host}

theorem refl (host : Host) : Later host host := ⟨rfl, .refl _⟩

theorem trans (early : Later host middle) (late : Later middle last) : Later host last :=
  ⟨late.here.trans early.here, early.aged.trans late.aged⟩

end Later

end MonorepoCheck
