import AssistedInjection.Declaration.Basic
import AssistedInjection.Markers

/-!
Manifests: a set of class declarations, with the markers they use where those are relocated.
-/

namespace AssistedInjection

open Declaration
open Json (Form Field ReadError)

/-- The declarations to work on. -/
structure Manifest where
  markers : Option Markers
  classes : List ClassDeclaration
deriving DecidableEq

namespace Manifest

/-- A manifest in JSON. -/
def form : Form Manifest :=
  .record "Manifest"
    [.optional "markers" Markers.form, .withDefault "classes" (.list ClassDeclaration.form) []]
    (fun m => (m.markers, m.classes, ())) (fun (markers, classes, ()) => ⟨markers, classes⟩)

/-- Reads a manifest from JSON text. -/
def parse (text : String) : Except ReadError Manifest := form.ofString text

/-- The JSON text of a manifest, one item a line. -/
def text (m : Manifest) : String := (form.write m).spread

/-- How it is said that a text is no manifest. -/
def complaint (e : ReadError) : String := "bad declaration manifest: " ++ e.message

/-- The markers in force. -/
def markersInForce (m : Manifest) : Markers := m.markers.getD .standard

end Manifest

end AssistedInjection
