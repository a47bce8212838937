import Mathlib.Data.Rat.Defs
import Switch2Bt.Codec.Octets

/-!
# Protocol profiles (`switch2d.py`, protocol profiles)

A profile says which characteristic carries the reports, which one takes commands, what is written
before the reports are enabled and how notifications are subscribed.
-/

namespace Switch2Bt

/-- `str.lower()`, on ASCII. -/
def lower (t : String) : String := String.ofList (t.toList.map Char.toLower)

/-- `str.upper()`, on ASCII. -/
def upper (t : String) : String := String.ofList (t.toList.map Char.toUpper)

/-- Source: `switch2d.py` `ProtocolProfile.subscribe_strategy` -/
inductive SubscribeStrategy where
  /-- Subscribe the matched input characteristic. -/
  | selected
  /-- Subscribe every notify characteristic. -/
  | all
deriving DecidableEq, Repr

/-- One entry of the init sequence: label, payload and the delay after it. -/
structure InitCommand where
  label : String
  payload : Octets
  delayS : ℚ
deriving DecidableEq, Repr

/-- One documented connection strategy.
Source: `switch2d.py` `ProtocolProfile` -/
structure ProtocolProfile where
  name : String
  source : String
  inputUuids : List String
  commandUuid : Option String
  initCommands : List InitCommand
  subscribeStrategy : SubscribeStrategy
  spro2winHandle : Option ℕ
deriving DecidableEq, Repr

/-- Whether the profile pairs before its init sequence.
Source: `switch2d.py` `profile.name.endswith("-pair")` -/
def ProtocolProfile.pairs (p : ProtocolProfile) : Bool :=
  "-pair".toList.isSuffixOf p.name.toList

/-- Source: `switch2d.py` `PROFILE_MACOS` -/
def profileMacos : ProtocolProfile where
  name := "macos"
  source := "mlstr0m/switch2bridge-macos (macOS, WORKING)"
  inputUuids := ["7492866c-ec3e-4619-8258-32755ffcc0f9"]
  commandUuid := none
  initCommands := []
  subscribeStrategy := .selected
  spro2winHandle := none

/-- Source: `switch2d.py` `PROFILE_SPRO2WIN` -/
def profileSpro2win : ProtocolProfile where
  name := "spro2win"
  source := "SquareDonut1/SPro2Win (Windows, WORKING)"
  inputUuids := []
  commandUuid := none
  initCommands := []
  subscribeStrategy := .all
  spro2winHandle := some 45

/-- Source: `switch2d.py` `PROFILE_JOYCON2CPP` (`init_commands`) -/
def joycon2cppInit : List InitCommand := [
  ⟨"feature-select 0x02",
    [0x0c, 0x91, 0x01, 0x02, 0x00, 0x04, 0x00, 0x00, 0xff, 0x00, 0x00, 0x00], 1 / 2⟩,
  ⟨"feature-select 0x04",
    [0x0c, 0x91, 0x01, 0x04, 0x00, 0x04, 0x00, 0x00, 0xff, 0x00, 0x00, 0x00], 7 / 10⟩,
  ⟨"set LED",
    [0x09, 0x91, 0x01, 0x07, 0x00, 0x08, 0x00, 0x00, 0x01, 0x00, 0x00, 0x00, 0x00, 0x00, 0x00,
      0x00],
    1 / 20⟩,
  ⟨"sound",
    [0x0a, 0x91, 0x01, 0x02, 0x00, 0x08, 0x00, 0x00, 0x04, 0x00, 0x00, 0x00, 0x00, 0x00, 0x00,
      0x00],
    1 / 20⟩]

/-- Source: `switch2d.py` `PROFILE_JOYCON2CPP` -/
def profileJoycon2cpp : ProtocolProfile where
  name := "joycon2cpp"
  source := "TheFrano/joycon2cpp (Windows, WORKING)"
  inputUuids := ["ab7de9be-89fe-49ad-828f-118f09df7fd2"]
  commandUuid := some "649d4ac9-8eb7-4e6c-af44-1ea54fe5f005"
  initCommands := joycon2cppInit
  subscribeStrategy := .selected
  spro2winHandle := none

/-- Source: `switch2d.py` `PROFILE_JOYCON2CPP_PAIR` -/
def profileJoycon2cppPair : ProtocolProfile where
  name := "joycon2cpp-pair"
  source := "CareyScott/switch2controllerpc + Nadeflore/switch2-controllers (PAIR) + " ++
    "TheFrano/joycon2cpp (init)"
  inputUuids := ["ab7de9be-89fe-49ad-828f-118f09df7fd2"]
  commandUuid := some "649d4ac9-8eb7-4e6c-af44-1ea54fe5f005"
  initCommands := joycon2cppInit
  subscribeStrategy := .selected
  spro2winHandle := none

/-- Source: `switch2d.py` `PROTOCOL_PROFILES` -/
def protocolProfiles : List (String × ProtocolProfile) := [
  ("macos", profileMacos),
  ("spro2win", profileSpro2win),
  ("joycon2cpp", profileJoycon2cpp),
  ("joycon2cpp-pair", profileJoycon2cppPair)]

/-- Source: `switch2d.py` `AUTO_PROFILE_ORDER` -/
def autoProfileOrder : List String := ["macos", "spro2win", "joycon2cpp"]

/-- The names `--profile` accepts.
Source: `switch2d.py` `parse_args` (`--profile`, `choices`) -/
def profileChoices : List String := ["auto", "macos", "spro2win", "joycon2cpp", "joycon2cpp-pair"]

/-- Source: `switch2d.py` `COMMAND_RESPONSE_UUID` -/
def commandResponseUuid : String := "c765a961-d9d8-4d36-a20a-5315b111836a"

/-- Every profile is registered under its own name. -/
theorem protocolProfiles_name : ∀ e ∈ protocolProfiles, e.2.name = e.1 := by decide

/-- Every name of the auto order is registered, and under it a profile of that name. -/
theorem autoProfileOrder_name :
    ∀ n ∈ autoProfileOrder, ((protocolProfiles.lookup n).getD profileMacos).name = n := by decide

end Switch2Bt
