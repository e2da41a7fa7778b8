import Retouch.Backend.State
import Retouch.Host.State

/-!
# Events as objects

Whoever listens to the backend or the host from outside gets events as objects: the name of the event
and what it tells.
-/

namespace Retouch

/-- An event of the backend as an object. -/
def BackendEvent.toJson : BackendEvent → Json
  | .stylesPatched path selector applied failed =>
    .obj [("event", .str "StylesPatched"), ("file_path", .str path), ("selector", .str selector),
      ("applied", .strings applied), ("failed", .strings failed)]
  | .textPatched path selector =>
    .obj [("event", .str "TextPatched"), ("file_path", .str path), ("selector", .str selector)]
  | .uploadCompleted upload path =>
    .obj [("event", .str "UploadCompleted"), ("upload_id", .str upload), ("path", .str path)]

/-- An event of the host as an object. -/
def HostEvent.toJson : HostEvent → Json
  | .selectionChanged selector? =>
    .obj [("event", .str "SelectionChanged"), ("selector", .ofString? selector?)]
  | .hoverChanged selector? =>
    .obj [("event", .str "HoverChanged"), ("selector", .ofString? selector?)]
  | .syncChanged isSyncing error? hasPendingChanges =>
    .obj [("event", .str "SyncStateChanged"), ("is_syncing", .bool isSyncing),
      ("error", .ofString? error?), ("has_pending_changes", .bool hasPendingChanges)]
  | .historyChanged index length =>
    .obj [("event", .str "HistoryChanged"), ("index", .int index), ("length", .nat length)]
  | .uploadCompleted upload path =>
    .obj [("event", .str "UploadCompleted"), ("upload_id", .str upload), ("path", .str path)]
  | .codeOpened path line =>
    .obj [("event", .str "goToCode"), ("path", .str path), ("line", .int line)]

end Retouch
