import Gateway.Config.Basic
import Gateway.Http.Coding
import Gateway.Http.ContentType
import Gateway.Http.Response
import Gateway.Link.Document

/-! Rerooting the links of responses. A page is gathered up to the limit, decoded, rerooted and encoded again;
    whatever stands in the way of that, the response goes out with the bytes that it came with. Only a body that
    breaks while it is gathered makes a response of the gateway's own. -/

namespace Gateway.Link

open Http

/-- What became of a page. -/
inductive Outcome
  | unsupported
  | tooLarge
  | broken
  | failed
  | unchanged
  | rerooted
deriving DecidableEq, Repr

def Outcome.name : Outcome → String
  | unsupported => "unsupported_encoding"
  | tooLarge => "too_large"
  | broken => "body_error"
  | failed => "failed"
  | unchanged => "unchanged"
  | rerooted => "rewritten"

/-! ### Gathering -/

inductive Gathered
  | complete (bytes : ByteArray)
  /-- The body as a whole, with the bytes in front that have been gathered. -/
  | overflow (body : Body)
  | broken (reason : String)

/-- Events without trailers. -/
def withoutTrailers (events : List Event) : List Event :=
  events.filter fun e => match e with
    | .trailers _ => false
    | _ => true

/-- Gathers the data of some events behind `bytes`. Trailers are lost. -/
def gather (limit : Nat) (bytes : ByteArray) : List Event → Gathered
  | [] => .complete bytes
  | .data more :: rest =>
    let bytes := bytes ++ more
    if limit < bytes.size then .overflow { events := .data bytes :: withoutTrailers rest, sized := false }
    else gather limit bytes rest
  | .trailers _ :: rest => gather limit bytes rest
  | .wait _ :: rest => gather limit bytes rest
  | .failure reason :: _ => .broken reason

/-! ### Rerooting -/

/-- Fields that tell of the bytes of a body. -/
def digests : List String := ["etag", "content-md5", "digest", "repr-digest", "content-digest"]

/-- The fields of a response whose body has become another one of `length` bytes. -/
def relabel (h : Headers) (length : Nat) : Headers :=
  let h := h.set "content-length" (toString length).toUTF8
  ⟨h.fields.filter fun f => !digests.contains f.name⟩

/-- The new body, if a link changed. -/
def rerootBody [Gzip.Writer] (config : Config.Links) (view : View) (coding : Coding) (bytes : ByteArray) :
    Except Gzip.DecodeError (Option ByteArray) := do
  let page ← coding.decode config.maxBody bytes
  let document := rerootDocument view page
  if document.links = 0 then return none else return some (coding.encode config.gzipLevel document.html)

/-- A page is to be rerooted, if anything is. -/
def applies (config : Config.Links) (response : Response) : Bool := config.enabled && response.headers.isHtml

/-- Reroots the links of a response, and says what became of it if it is a page. -/
def rerootResponse [Gzip.Writer] (config : Config.Links) (view : View) (response : Response) :
    Response × Option Outcome :=
  if ¬ applies config response then (response, none)
  else
    match Coding.ofHeaders response.headers with
    | .error _ => (response, some .unsupported)
    | .ok coding =>
      match gather config.maxBody .empty response.body.events with
      | .broken reason => ((Failure.body reason).response, some .broken)
      | .overflow body => ({ response with body }, some .tooLarge)
      | .complete bytes =>
        match rerootBody config view coding bytes with
        | .ok (some body) =>
          ({ response with headers := relabel response.headers body.size, body := .ofBytes body }, some .rerooted)
        | .ok none => ({ response with body := .ofBytes bytes }, some .unchanged)
        | .error (.tooLarge _) => ({ response with body := .ofBytes bytes }, some .tooLarge)
        | .error _ => ({ response with body := .ofBytes bytes }, some .failed)

end Gateway.Link
