import Retouch.Host.State
import Retouch.Overlay.Frame
import Retouch.Page.Outline

/-!
# What can be seen

The state of a preview frame and of a host as objects, as far as a user can see it.
-/

namespace Retouch

/-- An element by its name, or `null`. -/
def elementJson {κ : Type} (p : Page.NamedPage κ) : Option ElementId → Json
  | some id => .str (Page.nameOf p id)
  | none => .null

/-- What can be seen of a frame. -/
def Frame.report (f : Frame) (names : Page.Names) : Json :=
  let o := f.overlay
  let element := elementJson (o.page, names)
  if !f.isActive then .obj [("active", .bool false)]
  else .obj [("active", .bool true), ("state", .str o.session.mode.label),
    ("installed", .bool o.session.isInstalled), ("hovered", element o.session.hovered?),
    ("selected", element o.session.selected?),
    ("previewed", .arr (o.previewed.map fun id => element (some id))),
    ("focus", element o.page.active?)]

/-- The layers of styles of an element: committed, only shown, and both together. -/
def Host.stylesReport {κ : Type} (h : Host κ) (selector : String) : Json :=
  .arr [Wire.textsJson (h.committed.styles selector), Wire.textsJson (h.preview.styles selector),
    Wire.textsJson (h.effective selector)]

/-- What can be seen of a host, with the styles of some elements. -/
def Host.report {κ : Type} (h : Host κ) (watched : List String) : Json :=
  .obj [("enabled", .bool h.isEnabled),
    ("selected", match h.selected? with
      | some s => s.toJson
      | none => .null),
    ("hovered", .ofString? (h.hovered?.map (·.selector))), ("syncing", .bool h.isSyncing),
    ("syncError", .ofString? h.syncError?), ("pending", .bool h.hasPendingChanges),
    ("canUndo", .bool h.history.canUndo), ("canRedo", .bool h.history.canRedo),
    ("index", .int h.history.index), ("entries", .strings (h.history.entries.map (·.id))),
    ("uploads", .obj (h.uploads.map fun (id, received, total) =>
      (id, .arr [.int received, .int total]))),
    ("styles", .obj (watched.map fun selector => (selector, h.stylesReport selector)))]

end Retouch
