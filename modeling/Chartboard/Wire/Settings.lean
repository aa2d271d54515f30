import Chartboard.Data.Source
import Chartboard.Json.Decode
import Chartboard.Render.Adapt

/-!
# Written settings

The settings of table display and of file reading. Every field has to be there.
-/

namespace Chartboard

open Json (Value Decoder)

/-- Reads the display cap of tables. -/
def RenderModel.displayCapDecoder : Decoder Nat :=
  .record "AdapterConfig" [.required "table_display_cap" .count fun cap _ => cap] defaultDisplayCap

/-- The display cap of tables as an object. -/
def RenderModel.displayCapJson (cap : Nat) : Value :=
  .object [("table_display_cap", Value.int cap)]

namespace CsvOptions

/-- Reads the options of a file. -/
def decoder : Decoder CsvOptions :=
  .record "CsvConfig"
    [.required "delimiter" (.natural 8) fun n o => { o with delimiter := UInt8.ofNat n },
     .required "has_header" .bool fun hasHeader o => { o with hasHeader },
     .required "sample_size" .count fun sampleSize o => { o with sampleSize }]
    {}

/-- The options of a file as an object. -/
def toJson (o : CsvOptions) : Value :=
  .object [("delimiter", Value.int o.delimiter.toNat), ("has_header", .bool o.hasHeader),
    ("sample_size", Value.int o.sampleSize)]

end CsvOptions

end Chartboard
