/-! Files. Whoever reads files sees them as a function from paths: there is a document, a directory, or nothing. -/

namespace Gateway

inductive File
  /-- A document, and when it was last changed, in seconds from the beginning of 1970. -/
  | document (bytes : ByteArray) (changed : Nat)
  | directory

abbrev Files := String → Option File

namespace Files

/-- The document at a path. -/
def document? (files : Files) (path : String) : Option ByteArray :=
  match files path with
  | some (.document bytes _) => some bytes
  | _ => none

/-- Documents that were all changed at one time, and the directories that they are in. -/
def ofList (changed : Nat) (documents : List (String × ByteArray)) : Files := fun path =>
  match documents.find? (·.1 == path) with
  | some (_, bytes) => some (.document bytes changed)
  | none => if documents.any fun d => (path ++ "/").toList.isPrefixOf d.1.toList then some .directory else none

end Files
end Gateway
