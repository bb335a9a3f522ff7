import MonorepoCheck.Toml.Tables

/-!
Building the table of a document: a header declares a new table, and the assignments after it fill
that table and leave the rest of the document as it is.
-/
namespace MonorepoCheck.Toml

section Members

variable {key : String} {members : Members}

theorem lookup_append (key : String) (front back : Members) :
    lookup key (front ++ back) = (lookup key front).or (lookup key back) := by
  rw [lookup, List.find?_append, Option.map_or]
  rfl

theorem lookup_cons_self (key : String) (value : Toml) (members : Members) :
    lookup key ((key, value) :: members) = some value := by
  simp [lookup]

theorem lookup_eq_none : lookup key members = none ↔ key ∉ members.map Prod.fst := by
  rw [lookup, Option.map_eq_none_iff, List.find?_eq_none, List.mem_map]
  constructor
  · rintro none' ⟨member, inside, same⟩
    exact none' member inside (by simpa using same)
  · intro absent member inside same
    exact absent ⟨member, inside, by simpa using same⟩

/-- A key at the end is exchanged there. -/
theorem exchange_last (absent : lookup key members = none) (value other : Toml) :
    exchange key value (members ++ [(key, other)]) = members ++ [(key, value)] := by
  have kept : members.map (fun member => if member.1 == key then (key, value) else member)
      = members.map id := by
    refine List.map_congr_left fun member inside => ?_
    have different : member.1 ≠ key := fun same =>
      lookup_eq_none.mp absent (List.mem_map.mpr ⟨member, inside, same⟩)
    simp [different]
  rw [exchange, List.map_append, kept, List.map_id]
  simp

end Members

section Ways

variable {document : Members → Members} {path : List String} {name : String}
variable {members : Members} {current : List String}

theorem alter_append (dotted : Bool) (change : Change) (front back : List String) (form : TableForm)
    (members : Members) :
    alter dotted change (front ++ back) form members
      = alter dotted (alter dotted change back) front form members := by
  induction front generalizing form members with
  | nil => rfl
  | cons key front ih => simp only [List.cons_append, alter, ih]

/-- The path leads to a declared table, and `document` is what stands around it. -/
def Around (document : Members → Members) (path : List String) : Prop :=
  ∀ change members,
    alter false change path .declared (document members)
      = (change .declared members).map document

theorem around_root : Around (fun members => members) [] := by
  intro change members
  simp [alter]

theorem Around.inside (around : Around document path) (absent : lookup name members = none) :
    Around (fun inner => document (members ++ [(name, .table .declared inner)]))
      (path ++ [name]) := by
  intro change inner
  have found : lookup name (members ++ [(name, .table .declared inner)])
      = some (.table .declared inner) := by
    rw [lookup_append, absent, Option.none_or, lookup_cons_self]
  rw [alter_append, around, alter, found]
  simp only [alter]
  cases changed : change .declared inner with
  | none => simp
  | some after => simp [exchange_last absent]

/-- A header declares a new table and makes it the current one. -/
theorem Around.header (around : Around document path) (absent : lookup name members = none) :
    Draft.add ⟨document members, current⟩ (.table (path ++ [name]))
      = some ⟨document (members ++ [(name, .table .declared [])]), path ++ [name]⟩ := by
  have cut : cutPath (path ++ [name]) = some (path, name) := by simp [cutPath]
  simp [Draft.add, cut, around _ members, declareKey, absent]

/-- An assignment adds a new key to the current table. -/
theorem Around.assign (around : Around document path) (absent : lookup name members = none)
    (value : Toml) :
    Draft.add ⟨document members, path⟩ (.assign [name] value)
      = some ⟨document (members ++ [(name, value)]), path⟩ := by
  have cut : cutPath [name] = some ([], name) := rfl
  simp [Draft.add, around _ members, Toml.assign, cut, alter, setKey, absent]

/-- Assignments with keys of their own fill the current table. -/
theorem Around.assigns (around : Around document path) (members values : Members)
    (distinct : ((members ++ values).map Prod.fst).Nodup) :
    (values.map fun (key, value) => Statement.assign [key] value).foldlM Draft.add
        ⟨document members, path⟩
      = some ⟨document (members ++ values), path⟩ := by
  induction values generalizing members with
  | nil => simp
  | cons entry values ih =>
      obtain ⟨key, value⟩ := entry
      have absent : lookup key members = none := by
        rw [lookup_eq_none]
        intro member
        rw [List.map_append, List.nodup_append] at distinct
        exact distinct.2.2 key member key (by simp) rfl
      have later := ih (members ++ [(key, value)]) (by simpa using distinct)
      rw [List.map_cons, List.foldlM_cons, around.assign absent]
      simpa using later

end Ways
end MonorepoCheck.Toml
