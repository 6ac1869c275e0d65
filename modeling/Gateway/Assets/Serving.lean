import Gateway.Assets.MediaType
import Gateway.Assets.Range
import Gateway.Config.Basic
import Gateway.Files
import Gateway.Http.Date
import Gateway.Http.Request
import Gateway.Http.Response
import Gateway.Url.Percent

/-! Serving files. A path names a document below the root and never leaves it; a directory is shown by its index, and
    sends clients to its path with a slash first. What is not there is answered by the page for that, if there is
    one. A client may ask for a part of a document, or for it only if it has changed. -/

namespace Gateway.Assets

open Http

/-! ### Paths -/

/-- The path below a base of `depth` segments, rooted. -/
def beneath (depth : Nat) (path : String) : String :=
  let rest := ['/'].intercalate (((path.toList.splitOn '/').drop 1).drop depth)
  if rest.head? = some '/' then String.ofList rest else String.ofList ('/' :: rest)

/-- The names on the way from the root to what a path asks for, unless it leads out. -/
def names? (path : String) : Option (List String) := do
  let bytes := (String.ofList (path.toList.dropWhile (· == '/'))).toUTF8
  let text ← String.fromUTF8? (Url.unescape bytes.toList).toByteArray
  let names := (text.toList.splitOn '/').filter fun s => s ≠ [] ∧ s ≠ ['.']
  if text.toList.head? = some '/' ∨ names.contains ['.', '.'] then none else some (names.map String.ofList)

/-- A path on disk. -/
def located (root : String) (names : List String) : String := "/".intercalate (root :: names)

/-! ### Documents -/

/-- The bytes of a range. -/
def Range.cut (range : Range) (bytes : ByteArray) : ByteArray := bytes.extract range.first (range.last + 1)

/-- What a request makes dependent on the last change of a document: the status that it fails with. -/
def condition? (request : Request) (changed : Nat) : Option Nat :=
  let date? (name : String) : Option Nat := (request.headers.text? name).bind Date.ofText?
  if (date? "if-unmodified-since").any (· < changed) then some 412
  else if (date? "if-modified-since").any (changed ≤ ·) then some 304
  else none

/-- A document, or the part of it that the request asks for. -/
def document (request : Request) (name : String) (bytes : ByteArray) (changed : Nat) : Response :=
  match condition? request changed with
  | some status => .ofStatus status
  | none =>
    let size := bytes.size
    let headers := ((Headers.empty.add "content-type" (mediaType name).toUTF8).add "accept-ranges" "bytes".toUTF8).add
      "last-modified" (Date.text changed).toUTF8
    let ofLength (length : Nat) (headers : Headers) : Headers := headers.add "content-length" (toString length).toUTF8
    let within (range : String) : Headers := headers.add "content-range" s!"bytes {range}/{size}".toUTF8
    let shown (part : ByteArray) : Body :=
      { events := if request.method = "HEAD" ∨ part.isEmpty then [] else [.data part], sized := false }
    match (request.headers.text? "range").map (Range.ofText? size) with
    | none => { status := 200, headers := ofLength size headers, body := shown bytes }
    | some (some [range]) =>
      let length := if size = 0 then 0 else range.last - range.first + 1
      { status := 206, headers := ofLength length (within s!"{range.first}-{range.last}")
        body := shown (range.cut bytes) }
    | some (some _) =>
      { status := 416, headers := within "*", body := .ofText "Cannot serve multipart range requests" }
    | some none => { status := 416, headers := within "*", body := .ofBytes .empty }

/-! ### Serving -/

/-- The answer where there is no document. -/
def missing (files : Files) (config : Config.StaticFiles) (request : Request) : Response :=
  match config.notFoundPage.bind fun page => (files page).map (page, ·) with
  | some (page, .document bytes changed) => { document request page bytes changed with status := 404 }
  | _ => .ofStatus 404

/-- The paths on disk that the answer to a request may depend on. -/
def consulted (config : Config.StaticFiles) (root : String) (request : Request) : List String :=
  let found := (names? request.uri.path).toList.flatMap fun names =>
    [located root names, located root (names ++ ["index.html"])]
  found ++ config.notFoundPage.toList

/-- Serves the files below `root` to a request for a path that starts there. -/
def serve (files : Files) (config : Config.StaticFiles) (root : String) (request : Request) : Response :=
  if request.method ≠ "GET" ∧ request.method ≠ "HEAD" then
    .notAllowed
  else
    let path := request.uri.path
    match names? path with
    | none => missing files config request
    | some names =>
      match files (located root names) with
      | none => missing files config request
      | some (.document bytes changed) => document request (located root names) bytes changed
      | some .directory =>
        if path.toList.getLast? = some '/' then
          let index := located root (names ++ ["index.html"])
          match files index with
          | some (.document bytes changed) => document request index bytes changed
          | _ => missing files config request
        else
          let location := (request.withPath (path.push '/')).uri.text
          { Response.ofStatus 307 with headers := Headers.empty.add "location" location.toUTF8 }

end Gateway.Assets
