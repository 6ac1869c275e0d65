import Gateway.Directory.Resolution
import Gateway.Http.Response
import Gateway.Text.Datum

/-! Listings of the directory, for those who want to see what there is. -/

namespace Gateway.Http.Listing

def ofPod (entry : Key × Pod) : Datum :=
  .record [("namespace", .text entry.1.space), ("name", .text entry.1.name), ("ip", .optional .text entry.2.ip)]

def ofService (entry : Key × Service) : Datum :=
  .record [("namespace", .text entry.1.space), ("name", .text entry.1.name),
    ("clusterIP", .optional .text entry.2.clusterIp),
    ("port", .optional (fun port => .number port.toNat) entry.2.port)]

/-- A list of entries, or what the directory says instead. -/
def response {α : Type} (item : α → Datum) : Except String (List α) → Response
  | .ok entries => {
    status := 200, headers := Headers.empty.add "content-type" "application/json".toUTF8
    body := .ofText (Datum.list (entries.map item)).written }
  | .error reason => .plain 500 (ResolveError.directory reason).message

end Gateway.Http.Listing
