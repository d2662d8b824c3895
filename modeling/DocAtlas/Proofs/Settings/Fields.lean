import DocAtlas.Settings.Sources
import Mathlib.Data.List.Nodup

/-!
# Fields on top of others

Fields are told from each other by what is looked up in them. This module says what is found
in fields that were set, filtered, collected or laid over others. Where a name stands twice,
the field that is set last is the one that stays.
-/

namespace DocAtlas

namespace Value

variable {fields : List (String × Value)}

/-- The first field of a name is the one that is found. -/
theorem lookup_cons (name : String) (entry : String × Value) (fields : List (String × Value)) :
    lookup name (entry :: fields) =
      if entry.1 = name then some entry.2 else lookup name fields := by
  unfold lookup
  by_cases isName : entry.1 = name <;> simp [isName]

/-- A field is looked up in front first. -/
theorem lookup_append (name : String) (front back : List (String × Value)) :
    lookup name (front ++ back) = (lookup name front).or (lookup name back) := by
  unfold lookup
  rw [List.find?_append, Option.map_or]

/-- A name is found among fields when one of them has it. -/
theorem isSome_lookup_iff {name : String} :
    (lookup name fields).isSome = true ↔ name ∈ fields.map (·.1) := by
  unfold lookup
  rw [Option.isSome_map, List.find?_isSome, List.mem_map]
  simp

/-- Nothing is found under a name that no field has. -/
theorem lookup_eq_none_iff {name : String} :
    lookup name fields = none ↔ name ∉ fields.map (·.1) := by
  rw [← isSome_lookup_iff, Option.isSome_iff_ne_none, not_not]

/-- The value that the last field of a name has. -/
def lastValue? (name : String) (fields : List (String × Value)) : Option Value :=
  lookup name fields.reverse

/-- Of fields with distinct names each is the last of its name. -/
theorem lastValue?_of_nodup (distinct : (fields.map (·.1)).Nodup) (name : String) :
    lastValue? name fields = lookup name fields := by
  induction fields with
  | nil => rfl
  | cons entry rest inductionHypothesis =>
      rw [List.map_cons, List.nodup_cons] at distinct
      have behind := inductionHypothesis distinct.2
      unfold lastValue? at behind ⊢
      rw [List.reverse_cons, lookup_append, behind, lookup_cons, lookup_cons]
      by_cases isName : entry.1 = name
      · subst isName
        rw [lookup_eq_none_iff.mpr distinct.1]
        rfl
      · rw [if_neg isName, if_neg isName]
        exact Option.or_none

/-- Of fields with distinct names one is found among those kept when it is kept. -/
theorem lookup_filter (distinct : (fields.map (·.1)).Nodup) (keep : String × Value → Bool)
    (name : String) :
    lookup name (fields.filter keep) =
      (lookup name fields).filter fun value => keep (name, value) := by
  induction fields with
  | nil => rfl
  | cons entry rest inductionHypothesis =>
      rw [List.map_cons, List.nodup_cons] at distinct
      have behind := inductionHypothesis distinct.2
      obtain ⟨here, value⟩ := entry
      by_cases isName : here = name
      · subst isName
        rw [lookup_eq_none_iff.mpr distinct.1, Option.filter_none] at behind
        by_cases isKept : keep (here, value) = true <;>
          simp [isKept, lookup_cons, behind, Option.filter_some]
      · by_cases isKept : keep (here, value) = true <;> simp [isKept, lookup_cons, behind, isName]

/-- Fields that are left have distinct names when all had. -/
theorem nodup_filter (distinct : (fields.map (·.1)).Nodup) (keep : String × Value → Bool) :
    ((fields.filter keep).map (·.1)).Nodup :=
  distinct.sublist (List.filter_sublist.map _)

/-- Setting a field adds its name behind the others when it is new. -/
theorem names_setField (name : String) (value : Value) (fields : List (String × Value)) :
    (setField name value fields).map (·.1) =
      if name ∈ fields.map (·.1) then fields.map (·.1) else fields.map (·.1) ++ [name] := by
  induction fields with
  | nil => rfl
  | cons entry rest inductionHypothesis =>
      rw [setField]
      by_cases isName : entry.1 = name
      · subst isName
        simp
      · have differs : ¬ name = entry.1 := Ne.symm isName
        by_cases isBehind : name ∈ rest.map (·.1)
        · rw [if_pos isBehind] at inductionHypothesis
          simp [isName, isBehind, inductionHypothesis]
        · rw [if_neg isBehind] at inductionHypothesis
          simp [isName, differs, isBehind, inductionHypothesis]

/-- Setting a field repeats no name. -/
theorem nodup_setField (distinct : (fields.map (·.1)).Nodup) (name : String) (value : Value) :
    ((setField name value fields).map (·.1)).Nodup := by
  rw [names_setField]
  split
  · exact distinct
  · rename_i isNew
    rw [← List.concat_eq_append]
    exact distinct.concat isNew

/-- Fields collected by their names give what is given for them. -/
theorem lookup_collect (names : List String) (give : String → Option Value) (name : String) :
    lookup name (names.filterMap fun key => (give key).map (key, ·)) =
      if name ∈ names then give name else none := by
  induction names with
  | nil => rfl
  | cons key rest inductionHypothesis =>
      rw [List.filterMap_cons]
      by_cases isKey : key = name
      · subst isKey
        cases given : give key with
        | none => simp [inductionHypothesis, given]
        | some value => simp [lookup_cons]
      · have differs : ¬ name = key := Ne.symm isKey
        cases given : give key with
        | none => simp [inductionHypothesis, differs]
        | some value => simp [lookup_cons, inductionHypothesis, isKey, differs]

/-- Values collected by name are found under their names, and nothing else is. -/
theorem lastValue?_collect (names : List String) (give : String → Option Value) (name : String) :
    lastValue? name (names.filterMap fun key => (give key).map (key, ·)) =
      if name ∈ names then give name else none := by
  rw [lastValue?, ← List.filterMap_reverse, lookup_collect]
  simp

end Value

namespace Settings

/-- In fields that lie on top of others the last value above is found, and below it what
lies there. -/
theorem lookup_overlay (upper lower : List (String × Value)) (name : String) :
    Value.lookup name (overlay upper lower) =
      (Value.lastValue? name upper).or (Value.lookup name lower) := by
  unfold overlay Value.lastValue?
  induction upper generalizing lower with
  | nil => rfl
  | cons entry rest inductionHypothesis =>
      rw [List.foldl_cons, inductionHypothesis, List.reverse_cons, Value.lookup_append,
        Option.or_assoc, Value.lookup_setField, Value.lookup_cons]
      by_cases isName : entry.1 = name
      · rw [if_pos isName.symm, if_pos isName]
        rfl
      · rw [if_neg (Ne.symm isName), if_neg isName]
        rfl

/-- Overlaying fields repeats no name. -/
theorem nodup_overlay (upper : List (String × Value)) {lower : List (String × Value)}
    (distinct : (lower.map (·.1)).Nodup) : ((overlay upper lower).map (·.1)).Nodup := by
  unfold overlay
  induction upper generalizing lower with
  | nil => exact distinct
  | cons entry rest inductionHypothesis =>
      exact inductionHypothesis (Value.nodup_setField distinct entry.1 entry.2)

end Settings

end DocAtlas
