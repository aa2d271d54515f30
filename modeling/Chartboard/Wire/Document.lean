import Chartboard.Dashboard.Document
import Chartboard.Wire.Chart

/-!
# Written documents

A document is written over several lines in the order of declaration; an absent identifier and a
null layout are left out.
-/

namespace Chartboard

open Json (Value Decoder DecodeError)

namespace Uuid

/-- Reads an identifier. -/
def decoder : Decoder Uuid
  | _, .string s =>
    (ofText s).mapError fun fault => .data (.invalidForm s!"UUID parsing failed: {fault.message}")
  | _, t => Decoder.mismatch .uuid t

end Uuid

namespace Document

/-- Reads a document. -/
def decoder : Decoder Document :=
  .record "DashboardDocument"
    [.optional "id" Uuid.decoder (fun id d => { d with id }) true,
     .required "name" .string fun name d => { d with name },
     .required "dataset_id" .string fun datasetId d => { d with datasetId },
     .defaulted "filters" (FilterSet.decoder 1) fun filters d => { d with filters },
     .defaulted "charts" (.list Spec.decoder) fun charts d => { d with charts },
     .defaulted "layout" (.anything 1) fun layout d => { d with layout }]
    ({ name := "", datasetId := "" })

/-- A document as an object, in the order of declaration. -/
def toJson (d : Document) : Value :=
  .object
    (Value.optionalMember "id" (d.id.map fun u => .string u.text)
      ++ [("name", .string d.name),
        ("dataset_id", .string d.datasetId),
        ("filters", d.filters.toJson),
        ("charts", .array (d.charts.map Spec.toJson))]
      ++ (match d.layout with
        | .null => []
        | layout => [("layout", layout)]))

/-- Reads the text of a document. -/
def ofText (text : String) : Except DecodeError Document :=
  decoder.ofText text

/-- The text of a document. -/
def text (d : Document) : String :=
  d.toJson.pretty

end Document

end Chartboard
