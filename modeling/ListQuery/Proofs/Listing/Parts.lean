import ListQuery.Listing.Query
import ListQuery.Proofs.Steps
/-!
What the statements of a list are made of. Both read the same tables with the same criteria; the
statement for the rows has an order and a window besides. Names come into them as they are, once
they are known to be safe.
-/
namespace ListQuery

open Sql Column

theorem safeName_eq_ok_iff {name written : String} :
    safeName name = .ok written ↔ written = name ∧ IsSafe name := by
  rw [safeName, ← nameFault?_eq_none_iff]
  cases nameFault? name with
  | none =>
    constructor
    · intro h
      exact ⟨(Except.ok.inj h).symm, rfl⟩
    · rintro ⟨rfl, _⟩
      rfl
  | some fault => exact ⟨nofun, fun h => nomatch h.2⟩

theorem sqlColumn_eq_ok_iff {column name : String} :
    sqlColumn column = .ok name ↔ name = resolve column ∧ IsSafe (resolve column) :=
  safeName_eq_ok_iff

theorem mapM_safeName_eq_ok_iff {name written : Option String} : name.mapM safeName = .ok written ↔
    written = name ∧ ∀ given, name = some given → IsSafe given := by
  cases name with
  | none =>
    constructor
    · intro h
      exact ⟨(Except.ok.inj h).symm, nofun⟩
    · rintro ⟨rfl, _⟩
      rfl
  | some given =>
    constructor
    · intro h
      obtain ⟨checked, passed, same⟩ := bind_eq_ok_iff.mp h
      obtain ⟨rfl, safe⟩ := safeName_eq_ok_iff.mp passed
      cases same
      exact ⟨rfl, fun _ same => Option.some.inj same ▸ safe⟩
    · rintro ⟨rfl, safe⟩
      exact bind_eq_ok_iff.mpr ⟨given, safeName_eq_ok_iff.mpr ⟨rfl, safe given rfl⟩, rfl⟩

theorem Join.joinedTable_eq_ok_iff {j : Join} {t : JoinedTable} : j.joinedTable = .ok t ↔
    ∃ name, j.tableName? = some name ∧ IsSafe name ∧
      (∀ given, j.writtenAlias = some given → IsSafe given) ∧
      t = ⟨name, j.writtenAlias, j.condition⟩ := by
  rw [joinedTable]
  cases j.tableName? with
  | none => exact ⟨nofun, fun ⟨_, h, _⟩ => nomatch h⟩
  | some name =>
    constructor
    · intro h
      obtain ⟨table, named, h⟩ := bind_eq_ok_iff.mp h
      obtain ⟨asName, aliased, same⟩ := bind_eq_ok_iff.mp h
      obtain ⟨rfl, safe⟩ := safeName_eq_ok_iff.mp named
      obtain ⟨rfl, given⟩ := mapM_safeName_eq_ok_iff.mp aliased
      cases same
      exact ⟨_, rfl, safe, given, rfl⟩
    · rintro ⟨_, same, safe, given, rfl⟩
      cases same
      exact bind_eq_ok_iff.mpr ⟨_, safeName_eq_ok_iff.mpr ⟨rfl, safe⟩,
        bind_eq_ok_iff.mpr ⟨_, mapM_safeName_eq_ok_iff.mpr ⟨rfl, given⟩, rfl⟩⟩

theorem sourceOf_eq_ok_iff {table : String} {joins : List Join} {source : Source} :
    sourceOf table joins = .ok source ↔
      IsSafe table ∧ source.table = table ∧ joins.mapM Join.joinedTable = .ok source.joins := by
  constructor
  · intro h
    obtain ⟨main, named, h⟩ := bind_eq_ok_iff.mp h
    obtain ⟨tables, joined, same⟩ := bind_eq_ok_iff.mp h
    obtain ⟨rfl, safe⟩ := safeName_eq_ok_iff.mp named
    cases same
    exact ⟨safe, rfl, joined⟩
  · rintro ⟨safe, rfl, joined⟩
    exact bind_eq_ok_iff.mpr ⟨_, safeName_eq_ok_iff.mpr ⟨rfl, safe⟩,
      bind_eq_ok_iff.mpr ⟨_, joined, rfl⟩⟩

namespace ListRequest

variable {r : ListRequest} {s : Select}

theorem matching_eq_ok_iff {projection : Projection} : r.matching projection = .ok s ↔
    ∃ source criteria, sourceOf r.table r.joins = .ok source ∧ r.options.criteria = .ok criteria ∧
      s = ⟨projection, source, criteria, [], none⟩ := by
  constructor
  · intro h
    obtain ⟨source, tables, h⟩ := bind_eq_ok_iff.mp h
    obtain ⟨criteria, found, same⟩ := bind_eq_ok_iff.mp h
    cases same
    exact ⟨source, criteria, tables, found, rfl⟩
  · rintro ⟨source, criteria, tables, found, rfl⟩
    exact bind_eq_ok_iff.mpr ⟨source, tables, bind_eq_ok_iff.mpr ⟨criteria, found, rfl⟩⟩

theorem rows_eq_ok_iff : r.rows = .ok s ↔
    ∃ source criteria terms, sourceOf r.table r.joins = .ok source ∧
      r.options.criteria = .ok criteria ∧
      orderTerms r.table defaultOrderColumn r.options.order (!r.joins.isEmpty) = .ok terms ∧
      s = ⟨.allOf r.table, source, criteria, terms, some r.page.window⟩ := by
  constructor
  · intro h
    obtain ⟨selected, matched, h⟩ := bind_eq_ok_iff.mp h
    obtain ⟨terms, ordered, same⟩ := bind_eq_ok_iff.mp h
    obtain ⟨source, criteria, tables, found, rfl⟩ := matching_eq_ok_iff.mp matched
    cases same
    exact ⟨source, criteria, terms, tables, found, ordered, rfl⟩
  · rintro ⟨source, criteria, terms, tables, found, ordered, rfl⟩
    have matched : r.matching (.allOf r.table) = .ok _ :=
      matching_eq_ok_iff.mpr ⟨source, criteria, tables, found, rfl⟩
    exact bind_eq_ok_iff.mpr ⟨_, matched, bind_eq_ok_iff.mpr ⟨terms, ordered, rfl⟩⟩

section
variable (built : r.rows = .ok s ∨ r.count = .ok s)
include built

theorem source_of_built : sourceOf r.table r.joins = .ok s.source := by
  rcases built with rows | count
  · obtain ⟨_, _, _, tables, _, _, rfl⟩ := rows_eq_ok_iff.mp rows
    exact tables
  · obtain ⟨_, _, tables, _, rfl⟩ := matching_eq_ok_iff.mp count
    exact tables

theorem criteria_of_built : r.options.criteria = .ok s.criteria := by
  rcases built with rows | count
  · obtain ⟨_, _, _, _, found, _, rfl⟩ := rows_eq_ok_iff.mp rows
    exact found
  · obtain ⟨_, _, _, found, rfl⟩ := matching_eq_ok_iff.mp count
    exact found

end

end ListRequest

end ListQuery
