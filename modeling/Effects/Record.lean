import Effects.Layer

/-!
# The configuration record

The `getConfig` command asks for one record of settings; its layer answers every such command with
the record that it was made for.
-/

namespace Effects

/-- Requests the configuration record. -/
def getConfig : Process := .perform .getConfig .none

/-- Requests one field of the configuration record; an absent field is `null`. -/
def configValue (key : String) : Process :=
  getConfig.map fun record => .done ((record.get? key).getD .null)

/-- Answers every `getConfig` command with a record. -/
def configHandler (record : Value) : Handler where
  kind := .getConfig
  handle payload := .releasing payload.held fun _ => (Process.pure record).start

end Effects
