import DevKit.Eeprom.Settings
import DevKit.Web.RequestBody
import DevKit.Web.UrlEncoded

namespace DevKit
namespace Web

open Procedure Eeprom

/-!
# The settings of the device in a submitted form

`ReadConfigurationSettings` allocates the settings and reads them from a form,
field by field, with a reader that the form brings along.  With the
provisioning option it joins four values to one connection string; the length
of that string is checked at every append, against the capacity that the
storage has for it.

An allocation is granted or not by the board, and the heap remembers which
blocks are in use.  A reader is a function of the number of the call, so that
any behaviour of a reader with a state of its own is covered.
-/

/-! ## The heap -/

/-- The number of allocations asked for, and the blocks in use. -/
structure Heap where
  calls : Nat
  live : List Nat
deriving Repr, DecidableEq

/-- A pointer to a block, or the null pointer. -/
structure Allocation where
  id : Nat
  region : Pointer
deriving Repr, DecidableEq

def Allocation.null : Allocation := ⟨0, none⟩

/-- The blocks that a pointer owns. -/
def Allocation.blocks (allocation : Allocation) : List Nat :=
  if allocation.region = none then [] else [allocation.id]

/-- What the server does to the device: a save, with the strings that it is
given, or a restart. -/
inductive Effect where
  | saveWiFi (ssid pass : Bytes)
  | saveConnectionString (text : Bytes)
  | saveCertificate (text : Bytes)
  | reboot
deriving Repr, DecidableEq

/-- The server while it works on a request. -/
structure Server where
  connection : Connection
  heap : Heap
  reads : Nat
  effects : List Effect
deriving Repr, DecidableEq

/-- What is outside the server: whether an allocation is granted, by its
number, and what a save returns, by the number of effects before it. -/
structure Board where
  grants : Nat -> Bool
  stored : Nat -> Int

section Functions

variable (board : Board) {Exit Value : Type}

def calloc (size : Nat) : Procedure Server Exit Allocation := do
  let server <- Procedure.read
  let id := server.heap.calls
  if board.grants id = true then do
    update fun state => { state with heap := ⟨id + 1, id :: server.heap.live⟩ }
    pure ⟨id, some (List.replicate size 0)⟩
  else do
    update fun state => { state with heap := ⟨id + 1, server.heap.live⟩ }
    pure .null

end Functions

/-! ## The functions -/

/-- The call number, the name and the buffer with its capacity; the code and
the buffer afterwards. -/
structure Form where
  read : Nat -> Bytes -> Pointer -> Nat -> Option (Int × Pointer)

structure AzureWebSettings where
  block : Nat
  connectionString : Allocation
  certificate : Allocation
deriving Repr, DecidableEq

def dpsEndpoint : Bytes :=
  literal "DPSEndpoint"

def scopeId : Bytes :=
  literal "ScopeId"

def registrationId : Bytes :=
  literal "RegistrationId"

def symmetricKey : Bytes :=
  literal "SymmetricKey"

def deviceConnectionString : Bytes :=
  literal "DeviceConnectionString"

def certificateName : Bytes :=
  literal "certificate"

def semicolon : UInt8 := 59

def webSettingIotDeviceConnString : BitVec 32 := 1

def webSettingIotCert : BitVec 32 := 2

def webSettingIotDpsSymmetricKey : BitVec 32 := 4

def appendText (destination : Pointer) (capacity : Nat) (text : Pointer) : Option (Int × Pointer) :=
  (strlen destination).bind fun used =>
    (strlen text).bind fun length =>
      if used ≥ capacity ∨ length ≥ capacity - used then some (-1, destination)
      else
        (fetch text 0 (length + 1)).bind fun bytes =>
          (store destination used bytes.bytes).map fun destination => (0, destination)

def getConfigurationBodySize (options : BitVec 32) : Nat :=
  if options &&& webSettingIotDpsSymmetricKey ≠ 0 then deviceConnectionMaxLen
  else
    (if options &&& webSettingIotDeviceConnString ≠ 0 then deviceConnectionMaxLen else 0) +
      (if options &&& webSettingIotCert ≠ 0 then x509MaxLen else 0)

section Reading

variable (board : Board) (form : Form) {Value : Type}

/-- One call of `form->read`. -/
def Form.readField (name : Bytes) (value : Pointer) (capacity : Nat) :
    Procedure Server (Leaving Value) (Int × Pointer) := do
  let server <- Procedure.read
  let answer <- defined (form.read server.reads (name ++ [0]) value capacity)
  update fun state => { state with reads := state.reads + 1 }
  pure answer

def readRequiredField (name : Bytes) (value : Pointer) (capacity : Nat) :
    Procedure Server (Leaving Value) (Int × Pointer) := do
  let answer <- form.readField name value capacity
  let value <- defined (store answer.2 (capacity - 1) [0])
  if answer.1 ≠ 0 then pure (answer.1, value)
  else do
    let first <- defined (fetch value 0 1)
    pure (if first.bytes = [0] then -1 else 0, value)

/-- One append to the connection string of some settings, which returns from
`ReadConfigurationSettings` when it fails. -/
def appendPart (settings : AzureWebSettings) (text : Pointer) :
    Procedure Server (Leaving (Int × Option AzureWebSettings)) AzureWebSettings := do
  let answer <- defined (appendText settings.connectionString.region deviceConnectionMaxLen text)
  let settings := { settings with connectionString.region := answer.2 }
  reject (answer.1 ≠ 0) (.returned (-1, some settings))
  pure settings

/-- The separator in front of every part but the first. -/
def appendSeparator (settings : AzureWebSettings) (index : Nat) :
    Procedure Server (Leaving (Int × Option AzureWebSettings)) AzureWebSettings :=
  if index ≠ 0 then appendPart settings (some [semicolon, 0]) else pure settings

/-- One pass of the loop over the names. -/
def readDpsPart (settings : AzureWebSettings) (item : Bytes × Nat) :
    Procedure Server (Leaving (Int × Option AzureWebSettings)) AzureWebSettings := do
  let answer <- readRequiredField form item.1 (some (List.replicate (deviceConnectionMaxLen / 4 + 1) 0))
    (deviceConnectionMaxLen / 4 + 1)
  reject (answer.1 ≠ 0) (.returned (-1, some settings))
  let settings <- appendSeparator settings item.2
  let settings <- appendPart settings (some (item.1 ++ [0]))
  let settings <- appendPart settings (some [equals, 0])
  appendPart settings answer.2

/-- The first half of the branch without the provisioning option. -/
def readDeviceString (settings : AzureWebSettings) :
    Procedure Server (Leaving (Int × Option AzureWebSettings)) AzureWebSettings :=
  if settings.connectionString.region ≠ none then do
    let answer <- readRequiredField form deviceConnectionString settings.connectionString.region deviceConnectionMaxLen
    let settings := { settings with connectionString.region := answer.2 }
    reject (answer.1 ≠ 0) (.returned (-1, some settings))
    pure settings
  else pure settings

/-- The second half. -/
def readCertificate (options : BitVec 32) (settings : AzureWebSettings) :
    Procedure Server (Leaving (Int × Option AzureWebSettings)) AzureWebSettings :=
  if options &&& webSettingIotCert ≠ 0 then do
    let certificate <- calloc board (x509MaxLen + 1)
    reject (certificate.region = none) (.returned (-1, some settings))
    let answer <- readRequiredField form certificateName certificate.region (x509MaxLen + 1)
    let settings := { settings with certificate := { certificate with region := answer.2 } }
    reject (answer.1 ≠ 0) (.returned (-1, some settings))
    pure settings
  else pure settings

/-- The two allocations in front of the reads. -/
def allocateSettings (options : BitVec 32) :
    Procedure Server (Leaving (Int × Option AzureWebSettings)) AzureWebSettings := do
  let values <- calloc board 8
  reject (values.region = none) (.returned (-1, none))
  let settings : AzureWebSettings := ⟨values.id, .null, .null⟩
  if options &&& (webSettingIotDeviceConnString ||| webSettingIotDpsSymmetricKey) ≠ 0 then do
    let connectionString <- calloc board (deviceConnectionMaxLen + 1)
    reject (connectionString.region = none) (.returned (-1, some settings))
    pure { settings with connectionString := connectionString }
  else pure settings

/-- The code, and the settings through the pointer `settings`.  A form that is
a null pointer, or has none for a reader, is `none`. -/
def readConfigurationSettings (options : BitVec 32) (form : Option Form) :
    Procedure Server (Leaving (Int × Option AzureWebSettings)) (Int × Option AzureWebSettings) := do
  reject (getConfigurationBodySize options = 0) (.returned (0, none))
  match form with
  | none => pure (-1, none)
  | some form => do
      let settings <- allocateSettings board options
      if options &&& webSettingIotDpsSymmetricKey ≠ 0 then do
        let settings <- [(dpsEndpoint, 0), (scopeId, 1), (registrationId, 2), (symmetricKey, 3)].foldlM
          (readDpsPart form) settings
        pure (0, some settings)
      else do
        let settings <- readDeviceString form settings
        let settings <- readCertificate board form options settings
        pure (0, some settings)

end Reading

/-! ## Saving and releasing -/

section Saving

variable (board : Board) {Value : Type}

/-- One call of the storage, with the strings that it reads. -/
def save (effect : Effect) : Procedure Server Value Int := do
  let server <- Procedure.read
  update fun state => { state with effects := server.effects ++ [effect] }
  pure (board.stored server.effects.length)

end Saving

end Web
end DevKit
