import GuestShell.Binary64.Arithmetic
import GuestShell.Config.Basic
import GuestShell.Toml.Document

/-!
# Configurations as documents

A section is a table, where settings go by their names, or an array, where they go by their
order.  What is not set keeps its default, and what has an unknown name or place is passed
over.  A date in place of a section sets nothing.

A factor may be written as an integer; otherwise a setting must have the type it needs.
-/

namespace GuestShell

namespace Toml

/-- The settings of a section by their names. -/
abbrev Settings := String → Option Value

/-- A setting, which keeps its default if it is not set; none if it has the wrong type. -/
def Settings.read {α : Type} (settings : Settings) (name : String) (ofValue : Value → Option α)
    (default : α) : Option α :=
  match settings name with
  | none => some default
  | some value => ofValue value

namespace Value

/-- An integer counts as the floating-point number nearest to it. -/
def toBinary64? : Value → Option Binary64
  | .float x => some x
  | .integer n => some (.ofInt n)
  | _ => none

def toBool? : Value → Option Bool
  | .boolean b => some b
  | _ => none

def toText? : Value → Option String
  | .string text => some text
  | _ => none

/-- The settings of a section whose names are given in order. -/
def settings? (names : List String) : Value → Option Settings
  | .table _ entries => some (Entries.get? entries)
  | .array elements => some fun name => (names.zip elements).lookup name
  | .tables last earlier =>
    let elements := (last :: earlier).reverse.map (table .heading)
    some fun name => (names.zip elements).lookup name
  | .dateTime => some fun _ => none
  | _ => none

end Value

end Toml

open Toml

def ScaleSection.ofValue? (value : Value) : Option ScaleSection := do
  let settings ← value.settings? ["factor", "direct", "direct_x", "direct_y"]
  return {
    factor := ← settings.read "factor" Value.toBinary64? default.factor
    direct := ← settings.read "direct" Value.toBool? default.direct
    directX := ← settings.read "direct_x" Value.toBinary64? default.directX
    directY := ← settings.read "direct_y" Value.toBinary64? default.directY }

def Identity.ofValue? (value : Value) : Option Identity := do
  let settings ← value.settings? ["application_id", "vm_id", "prefix", "app_id_property"]
  return {
    applicationId :=
      ← settings.read "application_id" (·.toText?.map some) default.applicationId
    guest := ← settings.read "vm_id" Value.toText? default.guest
    domain := ← settings.read "prefix" Value.toText? default.domain
    appIdProperty :=
      ← settings.read "app_id_property" (·.toText?.map some) default.appIdProperty }

def ChannelSection.ofValue? (value : Value) : Option ChannelSection := do
  let settings ← value.settings? ["socket"]
  return ⟨← settings.read "socket" (·.toText?.map some) Config.default.channel.socket⟩

def LoggingSection.ofValue? (value : Value) : Option LoggingSection := do
  let settings ← value.settings? ["filter"]
  return ⟨← settings.read "filter" Value.toText? Config.default.logging.filter⟩

namespace Config

/-- The configuration in a document, not yet checked. -/
def ofEntries? (entries : Entries) : Option Config := do
  let settings : Settings := entries.get?
  return {
    scale := ← settings.read "scale" ScaleSection.ofValue? default.scale
    identity := ← settings.read "identity" Identity.ofValue? default.identity
    channel := ← settings.read "channel" ChannelSection.ofValue? default.channel
    logging := ← settings.read "logging" LoggingSection.ofValue? default.logging }

/-- The configuration in a text, if it is well formed and its factors can be used. -/
def parse (text : String) : Except ConfigError Config :=
  match (parse? text).bind ofEntries? with
  | none => .error .malformed
  | some config =>
    match config.scale.check with
    | .error e => .error e
    | .ok () => .ok config

/-- The text of the default configuration.  A setting without a value is left out. -/
def defaultText : String :=
  "[scale]\nfactor = 1.0\ndirect = false\ndirect_x = 1.0\ndirect_y = 1.0\n\n" ++
  "[identity]\nvm_id = \"guest\"\nprefix = \"org.chromium\"\n\n" ++
  "[channel]\n\n" ++
  "[logging]\nfilter = \"crosswl=info\"\n"

theorem parse_eq_ok_iff (text : String) (config : Config) :
    parse text = .ok config ↔
      (parse? text).bind ofEntries? = some config ∧ config.scale.check = .ok () := by
  unfold parse
  cases (parse? text).bind ofEntries? with
  | none => simp
  | some found =>
    simp only [Option.some.injEq]
    cases h : found.scale.check with
    | error e =>
      simp only [reduceCtorEq, false_iff]
      rintro ⟨rfl, hs⟩
      rw [h] at hs
      cases hs
    | ok _ =>
      simp only [Except.ok.injEq, iff_self_and]
      rintro rfl
      exact h

end Config

end GuestShell
