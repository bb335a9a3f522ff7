import Mathlib.Data.List.Nodup
import MonorepoCheck.Binary.Word
import MonorepoCheck.Json.Fields
import MonorepoCheck.Proofs.Json.Rereading

/-!
Objects written from named fields of which some are left out: their fields are found again, and
what was written for them is read back.
-/
namespace MonorepoCheck.Json

/-- The members of an object whose absent fields are left out. -/
def present (fields : List (String × Option Json)) : List (String × Json) :=
  fields.filterMap fun field => field.2.map fun json => (field.1, json)

theorem present_append (fields more : List (String × Option Json)) :
    present (fields ++ more) = present fields ++ present more := by
  simp [present]

theorem filter_present_absent {name : String} {fields : List (String × Option Json)}
    (absent : name ∉ fields.map Prod.fst) :
    (present fields).filter (fun member => member.1 == name) = [] := by
  rw [List.filter_eq_nil_iff]
  intro member among same
  obtain ⟨field, fieldMember, found⟩ := List.mem_filterMap.mp among
  obtain ⟨json, _, rfl⟩ := Option.map_eq_some_iff.mp found
  exact absent (List.mem_map.mpr ⟨field, fieldMember, by simpa using same⟩)

/-- Of distinct fields each has the members that it was written with, and no other. -/
theorem filter_present {fields : List (String × Option Json)} (distinct : (fields.map Prod.fst).Nodup)
    {name : String} {value : Option Json} (member : (name, value) ∈ fields) :
    (present fields).filter (fun member => member.1 == name)
      = value.toList.map fun json => (name, json) := by
  induction fields with
  | nil => simp at member
  | cons field fields ih =>
      rw [List.map_cons, List.nodup_cons] at distinct
      rw [← List.singleton_append, present_append, List.filter_append]
      rcases List.mem_cons.mp member with rfl | later
      · rw [filter_present_absent distinct.1]
        cases value <;> simp [present]
      · have other : field.1 ≠ name := by
          rintro rfl
          exact distinct.1 (List.mem_map.mpr ⟨_, later, rfl⟩)
        rw [ih distinct.2 later]
        cases found : field.2 <;> simp [present, found, other]

/-- Fields that were written are found, in the order in which they are asked for. -/
theorem fields?_among {fields asked : List (String × Option Json)}
    (distinct : (fields.map Prod.fst).Nodup) (among : ∀ field ∈ asked, field ∈ fields) :
    fields? (asked.map Prod.fst) (.object (present fields)) = some (asked.map Prod.snd) := by
  induction asked with
  | nil => rfl
  | cons field rest ih =>
      have here := filter_present distinct (among field List.mem_cons_self)
      have others := ih fun field member => among field (List.mem_cons_of_mem _ member)
      rw [fields?] at others ⊢
      rw [List.map_cons, List.mapM_cons, here, others]
      cases value : field.2 <;> simp [value]

section LiteralFree

theorem literalFreeItems_eq (items : List Json) : literalFreeItems items = items.all literalFree := by
  induction items with
  | nil => rfl
  | cons item items ih => simp [literalFreeItems, ih]

theorem literalFreeMembers_eq (members : List (String × Json)) :
    literalFreeMembers members = members.all fun member => member.2.literalFree := by
  induction members with
  | nil => rfl
  | cons member members ih => simp [literalFreeMembers, ih]

theorem literalFree_present {fields : List (String × Option Json)}
    (free : ∀ field ∈ fields, ∀ json ∈ field.2, json.literalFree = true) :
    (object (present fields)).literalFree = true := by
  rw [literalFree, literalFreeMembers_eq, List.all_eq_true]
  intro member among
  obtain ⟨field, fieldMember, found⟩ := List.mem_filterMap.mp among
  obtain ⟨json, written, rfl⟩ := Option.map_eq_some_iff.mp found
  exact free field fieldMember json written

theorem literalFree_ofTexts (texts : List String) : (ofTexts texts).literalFree = true := by
  rw [ofTexts, literalFree, literalFreeItems_eq]
  simp [literalFree]

end LiteralFree

section Rereading

variable {depth : Nat}

theorem rereadItems_map {α : Type} (write : α → Json) (items : List α) :
    rereadItems depth (items.map write) = items.map fun item => reread depth (write item) := by
  induction items with
  | nil => rfl
  | cons item items ih => simp [rereadItems, ih]

theorem rereadMembers_map {α : Type} (name : α → String) (write : α → Json) (members : List α) :
    rereadMembers depth (members.map fun member => (name member, write member))
      = members.map fun member => (name member, reread depth (write member)) := by
  induction members with
  | nil => rfl
  | cons member members ih => simp [rereadMembers, ih]

theorem rereadMembers_present (fields : List (String × Option Json)) :
    rereadMembers depth (present fields)
      = present (fields.map fun field => (field.1, field.2.map (reread depth))) := by
  induction fields with
  | nil => rfl
  | cons field fields ih =>
      rw [← List.singleton_append, present_append, List.map_append, present_append, ← ih]
      cases found : field.2 <;> simp [present, found, rereadMembers]

theorem atDepth_shallow {json : Json} (shallow : depth ≤ depthLimit) : atDepth depth json = json := by
  rw [atDepth, if_neg (by omega)]

/-- Fields that were written are read, each as it is read. -/
theorem fields?_reread_among (depth : Nat) {fields asked : List (String × Option Json)}
    (distinct : (fields.map Prod.fst).Nodup) (among : ∀ field ∈ asked, field ∈ fields)
    (shallow : depth < depthLimit) :
    fields? (asked.map Prod.fst) (reread depth (.object (present fields)))
      = some (asked.map fun field => field.2.map (reread (depth + 1))) := by
  have names (some' : List (String × Option Json)) :
      (some'.map fun field => (field.1, field.2.map (reread (depth + 1)))).map Prod.fst
        = some'.map Prod.fst := by simp
  have found := fields?_among (names fields ▸ distinct) (List.forall_mem_map.mpr
    fun field member => List.mem_map.mpr ⟨field, among field member, rfl⟩)
  rw [names] at found
  rw [reread, atDepth_shallow (by omega), rereadMembers_present, found]
  simp

/-- All fields that were written are read, each as it is read. -/
theorem fields?_reread (depth : Nat) {fields : List (String × Option Json)}
    (distinct : (fields.map Prod.fst).Nodup) (shallow : depth < depthLimit) :
    fields? (fields.map Prod.fst) (reread depth (.object (present fields)))
      = some (fields.map fun field => field.2.map (reread (depth + 1))) :=
  fields?_reread_among depth distinct (fun _ member => member) shallow

end Rereading

section Numbers

theorem naturalBelow?_integer (limit n : Nat) :
    naturalBelow? limit (.integer n) = if n < limit then some n else none := by
  simp only [naturalBelow?, Int.natCast_nonneg, true_and, Int.ofNat_lt, Int.toNat_natCast]

/-- A number of two machine words at most is read back if it is below the limit, and else it is
none. -/
theorem naturalBelow?_reread {limit : Nat} (most : limit ≤ Nat.pow 2 128) (depth n : Nat) :
    naturalBelow? limit (reread depth (.integer n)) = if n < limit then some n else none := by
  rw [reread, integerParts_value]
  by_cases inside : (integerParts n).inRange
  · rw [if_pos inside, naturalBelow?_integer]
  · have large : ¬n < limit := fun below =>
      inside (integerParts_inRange (Nat.lt_of_lt_of_le below most))
    rw [if_neg inside, if_neg large]
    rfl

/-- A count is read back if it fits a machine word, and else it is none. -/
theorem count?_reread (depth n : Nat) :
    count? (reread depth (.integer n)) = if fitsWord n then some n else none := by
  have word : Nat.pow 2 64 ≤ Nat.pow 2 128 := Nat.pow_le_pow_right (by decide) (by decide)
  rw [count?, naturalBelow?_reread word, fitsWord]
  simp only [decide_eq_true_eq]

end Numbers

section Lists

variable {α β : Type}

/-- A list is read if each of its items is. -/
theorem mapM_guarded (write : α → β) (read : β → Option α) (fits : α → Bool)
    (reads : ∀ item, read (write item) = if fits item then some item else none)
    (items : List α) :
    (items.map write).mapM read = if items.all fits then some items else none := by
  induction items with
  | nil => rfl
  | cons item items ih =>
      rw [List.map_cons, List.mapM_cons, reads, ih, List.all_cons]
      cases fits item <;> cases items.all fits <;> rfl

end Lists

theorem text?_reread (depth : Nat) (text : String) :
    text? (reread depth (.string text)) = some text := rfl

theorem bool?_reread (depth : Nat) (value : Bool) :
    bool? (reread depth (.bool value)) = some value := rfl

theorem texts?_reread {depth : Nat} (texts : List String) (shallow : depth < depthLimit) :
    texts? (reread depth (ofTexts texts)) = some texts := by
  have read := mapM_guarded (fun text => reread (depth + 1) (.string text)) text? (fun _ => true)
    (fun _ => rfl) texts
  rw [ofTexts, reread, atDepth_shallow (by omega), rereadItems_map]
  simpa [texts?, listOf?, array?] using read

/-- A field that may be left out is read as it was written. -/
theorem optional_map {α : Type} {write : α → Json} {read : Json → Option α}
    (reads : ∀ value, read (write value) = some value) (notNull : ∀ value, write value ≠ .null)
    (field : Option α) : Json.optional read (field.map write) = some field := by
  cases field with
  | none => rfl
  | some value =>
      rw [Option.map_some, Json.optional.eq_3]
      · rw [reads]
        rfl
      · exact fun same => notNull value same

end MonorepoCheck.Json
