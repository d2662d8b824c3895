import DocAtlas.Entity
import DocAtlas.Fault

/-!
# Records of a manifest

This module reads one record of a manifest as an entity without links. A full
name is required and becomes a text; a name that is not given is the last part of
the full name; every other field is taken as it is or has a default.
-/

namespace DocAtlas.Manifest

/-- The fields of a record. -/
abbrev Fields := List (String × Value)

/-- The fields of a value that has to be a record. -/
def fieldsOf : Value → Checked Fields
  | .record fields => .ok fields
  | value => reject (.lacks value.shape "get")

/-- The values that a value lists; one that is not given lists nothing. -/
def listedOf (value : Value) : Checked (List Value) :=
  if !value.isGiven then .ok []
  else
    match value.listed? with
    | some items => .ok items
    | none => reject (.notListed value.shape)

/-- A required field as text. A refusal names the record as far as it is named. -/
def requiredText (name : String) (fields : Fields) : Checked String :=
  let value := Value.field name fields
  if value.isGiven then .ok value.display
  else refuse (.missingField name
    ((Value.field "full_name" fields).orElse (Value.field "name" fields)))

/-- The kind of a class record, `class` when it has none. -/
def kindOf (fullName : String) (fields : Fields) : Checked Kind :=
  match (Value.lookup "kind" fields).getD (.text Kind.classDef.word) with
  | .text word =>
    match Kind.ofNamespaceWord? word with
    | some kind => .ok kind
    | none => refuse (.unknownKind (.text word) fullName)
  | .list _ => reject (.notKey .list)
  | .record _ => reject (.notKey .record)
  | value => refuse (.unknownKind value fullName)

/-- The method that a record gives. -/
def methodOf (value : Value) : Checked Method := do
  let fields ← fieldsOf value
  let name ← requiredText "name" fields
  pure ⟨name, (Value.field "summary" fields).orElse (.text ""),
    (Value.field "anchor_url" fields).orElse (.text "")⟩

/-- The name of a record, or the last part of its full name. -/
def nameOf (separator fullName : String) (fields : Fields) : Value :=
  (Value.field "name" fields).orElse (.text (Text.lastPart separator fullName))

/-- The class or module that a record gives. -/
def classOf (value : Value) : Checked Entity := do
  let fields ← fieldsOf value
  let fullName ← requiredText "full_name" fields
  let kind ← kindOf fullName fields
  let methods ← (← listedOf (Value.field "methods" fields)).mapM methodOf
  pure
    { name := nameOf "::" fullName fields
      fullName
      kind
      path := (Value.field "path" fields).orElse (.text "")
      documentsSelf := .bool (Value.field "documents_self" fields).isGiven
      superclass := Value.field "superclass" fields
      methods }

/-- The file that a record gives; a file documents itself unless it says otherwise. -/
def fileOf (value : Value) : Checked Entity := do
  let fields ← fieldsOf value
  let fullName ← requiredText "full_name" fields
  pure
    { name := nameOf "/" fullName fields
      fullName
      kind := .file
      path := (Value.field "path" fields).orElse (.text "")
      documentsSelf := .bool ((Value.lookup "documents_self" fields).getD (.bool true)).isGiven
      relativeName := (Value.field "relative_name" fields).orElse (.text fullName) }

end DocAtlas.Manifest
