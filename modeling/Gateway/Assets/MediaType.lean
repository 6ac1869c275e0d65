import Gateway.Text.Trim

/-! Media types of files, by the ending of their names. -/

namespace Gateway.Assets

/-- Endings, in lower case, and the media types that they stand for. -/
def mediaTypes : List (String × String) := [
  ("avif", "image/avif"), ("bmp", "image/bmp"), ("css", "text/css"), ("csv", "text/csv"),
  ("eot", "application/vnd.ms-fontobject"), ("gif", "image/gif"), ("gz", "application/gzip"), ("htm", "text/html"),
  ("html", "text/html"), ("ico", "image/x-icon"), ("ics", "text/calendar"), ("jpeg", "image/jpeg"),
  ("jpg", "image/jpeg"), ("js", "text/javascript"), ("json", "application/json"), ("log", "text/plain"),
  ("md", "text/markdown"), ("mjs", "text/javascript"), ("mp3", "audio/mpeg"), ("mp4", "video/mp4"),
  ("oga", "audio/ogg"), ("ogg", "audio/ogg"), ("otf", "font/otf"), ("pdf", "application/pdf"), ("png", "image/png"),
  ("rtf", "application/rtf"), ("sh", "application/x-sh"), ("svg", "image/svg+xml"), ("tar", "application/x-tar"),
  ("tif", "image/tiff"), ("tiff", "image/tiff"), ("ttf", "font/ttf"), ("txt", "text/plain"),
  ("wasm", "application/wasm"),
  ("wav", "audio/wav"), ("webm", "video/webm"), ("webp", "image/webp"), ("woff", "application/font-woff"),
  ("woff2", "font/woff2"), ("xhtml", "application/xhtml+xml"), ("xml", "text/xml"), ("yaml", "text/x-yaml"),
  ("yml", "text/x-yaml"), ("zip", "application/zip")]

/-- The ending of a name: what follows its last dot, unless that is the first character. -/
def ending? (name : List Char) : Option (List Char) :=
  let back := name.reverse
  match back.dropWhile (· != '.') with
  | '.' :: _ :: _ => some (back.takeWhile (· != '.')).reverse
  | _ => none

/-- The media type of a file at this path. Bytes of no known kind are just bytes. -/
def mediaType (path : String) : String :=
  let name := (path.toList.reverse.takeWhile (· != '/')).reverse
  ((ending? name).bind fun e => mediaTypes.lookup (String.ofList (e.map Char.toLower))).getD
    "application/octet-stream"

end Gateway.Assets
