import Structex.Check
import Structex.Value.Copy

/-!
# Documents

A document has a key, a type, a payload and perhaps some bookkeeping. Documents come from mappings
and are shown as mappings; nothing is asked of the key and the type until rules are applied.
-/

namespace Structex

/-- The bookkeeping of a document; what is null is not there. -/
structure Metadata where
  version : Value := .null
  hash : Value := .null
  createdAt : Value := .null
  updatedAt : Value := .null
  producedBy : Value := .null

/-- A payload under a key and a type. -/
structure Document where
  key : Value
  kind : Value
  data : Value
  metadata : Option Metadata

/-- Why no document comes of a value. -/
inductive DocumentFault where
  | missingField (field : String)
  /-- The value or its bookkeeping is no mapping of the right fields. -/
  | malformed

namespace Metadata

/-- The bookkeeping with a field set, if it has the field. -/
def set? (metadata : Metadata) (field : String) (value : Value) : Option Metadata :=
  match field with
  | "version" => some { metadata with version := value }
  | "hash" => some { metadata with hash := value }
  | "created_at" => some { metadata with createdAt := value }
  | "updated_at" => some { metadata with updatedAt := value }
  | "produced_by" => some { metadata with producedBy := value }
  | _ => none

/-- The bookkeeping that entries give. -/
def ofEntries? (entries : Entries) : Option Metadata :=
  List.foldlM (fun metadata entry => match entry.1 with
    | .str field => set? metadata field entry.2
    | _ => none) {} entries

/-- The entries of the bookkeeping, with copies of what its fields hold. -/
def toEntries (metadata : Metadata) : Except CopyFault Entries :=
  Value.presentFields [
    ("version", metadata.version), ("hash", metadata.hash), ("created_at", metadata.createdAt),
    ("updated_at", metadata.updatedAt), ("produced_by", metadata.producedBy)]

end Metadata

namespace Document

/-- The document that a value gives. -/
def ofValue : Value → Except DocumentFault Document
  | .map pairs => do
    let entries : Entries := pairs
    let some key := entries.get? "key" | throw (.missingField "key")
    let some kind := entries.get? "type" | throw (.missingField "type")
    let metadata ← match entries.get? "metadata" with
      | none | some .null => pure none
      | some (.map fields) =>
        match Metadata.ofEntries? fields with
        | some metadata => pure (some metadata)
        | none => throw .malformed
      | some _ => throw .malformed
    return ⟨key, kind, (entries.get? "data").getD .null, metadata⟩
  | _ => throw .malformed

/-- The document as a mapping. -/
def toValue (document : Document) : Except CopyFault Value := do
  let fields : Entries :=
    [(.str "key", document.key), (.str "type", document.kind), (.str "data", document.data)]
  match document.metadata with
  | some metadata => return .map (fields ++ [(.str "metadata", .map (← metadata.toEntries))])
  | none => return .map fields

end Document

end Structex
