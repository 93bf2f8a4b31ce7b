import PanelDriver.Panel.Basic
import PanelDriver.Text.Quoted

/-!
One-line descriptions of errors, refusals and panels: a name, and named fields between braces. Two
dots stand for fields that are left out.
-/

namespace PanelDriver

namespace Text

def named (name : String) (fields : List String) : String :=
  name ++ " \x7b " ++ String.intercalate ", " fields ++ " \x7d"

def field (name value : String) : String := name ++ ": " ++ value

def flag (b : Bool) : String := if b then "true" else "false"

end Text

def BusKind.describe : BusKind → String
  | .i2c => "I2c"
  | .mipi => "Mipi"
  | .spi => "Spi"

def PanelError.describe : PanelError → String
  | .truncated offset => Text.named "Truncated" [Text.field "offset" (toString offset)]
  | .unknownOpcode offset op =>
    Text.named "UnknownOpcode"
      [Text.field "offset" (toString offset), Text.field "op" (toString op.toNat)]
  | .transfer fault =>
    "Bus(" ++ Text.named "BusError"
      [Text.field "bus" fault.bus.describe, Text.field "kind" fault.label] ++ ")"
  | e => e.label

def Refusal.describe (refusal : Refusal) : String :=
  Text.named "BindError" [Text.field "error" refusal.error.describe, ".."]

def Panel.describe (panel : Panel) : String :=
  Text.named "Panel"
    [Text.field "name" (Text.quoted panel.config.desc.name),
      Text.field "prepared" (Text.flag panel.prepared),
      Text.field "enabled" (Text.flag panel.enabled), ".."]

end PanelDriver
