import DevKit.Web.FormReader

namespace DevKit
namespace Web

open Procedure Eeprom

/-!
# The page that saves the settings

`web_system_setting_result_page` receives the body of a submitted form, reads
the network name, the password and the settings of the device, and ends in one
place for all outcomes.  There the page that shows the result also does the
saving, and the device restarts.

Everything in front of that place runs with an error code that must be zero at
the end.  Whatever was saved had been received and decoded completely, and the
memory is given back.  This holds as long as the header lines are harmless: the copy
of a content type has no bound, and the parser of the user agent is not defined for
every text.
-/

/-! ## Requests -/

/-- A line of the headers, as far as the page depends on it.  The value of a content
type is what stands in the buffer of the lines behind `Content-Type: `, up to the end
of the buffer. -/
inductive HeaderLine where
  | contentLength (value : Int)
  | userAgent (text : Bytes)
  | contentType (value : Text) (buffer : 14 + value.region.length = 1024)
  | chunked
  | other

/-- `memcpy(req_p->content_type, data_p + strlen(http_content_type), strlen(data_p))`:
the length of the name is copied too much, and the array has 128 bytes. -/
def copyContentType (array : Bytes) (value : Text) : Option Pointer := do
  let copied <- fetch (some value.region) 0 (14 + value.characters.length)
  store (some array) 0 copied.bytes

/-- `__httpd_parse_hdr_tags`, for the fields that the page reads.  The texts for which
`httpd_parse_useragent` is defined are a parameter. -/
def HeaderLine.apply (agents : Bytes -> Bool) (request : Request) : HeaderLine -> Option Request
  | .contentLength value =>
      if value = 0 then some { request with bodyNbytes := value }
      else some { request with bodyNbytes := value, remainingBytes := value }
  | .userAgent text => if agents text = true then some request else none
  | .contentType value _ => (copyContentType request.contentType value).map fun array =>
      { request with contentType := array.getD [] }
  | .chunked => some { request with chunked := true }
  | .other => some request

/-- A request as `httpd_handle_message` clears it. -/
def freshRequest : Request where
  hdrParsed := false
  chunked := false
  bodyNbytes := 0
  remainingBytes := 0
  contentType := List.replicate 128 0

/-- Somebody who submits a form. -/
structure Visitor where
  stream : Nat -> UInt8
  recv : Nat -> Int
  headerBuffer : Bool
  headers : List HeaderLine
  agents : Bytes -> Bool
  headerStatus : Int
  headerBytes : Nat
  headerReceives : Nat

/-- The request behind its headers, which are read only if there is a buffer for them. -/
def Visitor.request (visitor : Visitor) : Option Request :=
  if visitor.headerBuffer = true then visitor.headers.foldlM (HeaderLine.apply visitor.agents) freshRequest
  else some freshRequest

/-- The other end of the connection, for a visitor whose headers leave a request. -/
def Visitor.client (visitor : Visitor) (request : Request) : Client where
  stream := visitor.stream
  recv := visitor.recv
  headerBuffer := visitor.headerBuffer
  parseHdrTags connection := (visitor.headerStatus,
    { request := request
      consumed := connection.consumed + visitor.headerBytes
      receives := connection.receives + visitor.headerReceives })

/-! ## The page -/

def ssidName : Bytes :=
  literal "SSID"

def multipartFormData : Bytes :=
  literal "multipart/form-data"

def boundaryEquals : Bytes :=
  literal "boundary="

def getConfigurationRequestCapacity (options : BitVec 32) (standardValueBytes : Nat) : Nat :=
  2048 + 3 * (standardValueBytes + getConfigurationBodySize options)

/-- The boundary of a multipart form, the null pointer for other forms, or an
error. -/
def formBoundary (contentType : Bytes) : Option (Except Int Pointer) :=
  (strstr multipartFormData contentType).bind fun found =>
    match found with
    | none => some (.ok none)
    | some _ =>
        (strstr boundaryEquals contentType).map fun found =>
          match found with
          | none => .error paramErr
          | some position => .ok (some (contentType.drop (position + 9)))

/-- The local variables at the label `_exit`. -/
structure Submission where
  err : Int
  buf : Allocation
  ssid : Pointer
  pass : Pointer
  settings : Option AzureWebSettings

section Page

variable (board : Board) (surroundings : Surroundings) (options : BitVec 32)

end Page

/-! ## Blocks and effects -/

section Effects

variable {board : Board} {start : Server}

/-- A submission without an error holds what was decoded. -/
structure Submission.Holds (submission : Submission) (ssid pass : Bytes) (connection certificate : Option Bytes) :
    Prop where
  network : submission.ssid.bind textOf = some ssid
  named : ssid ≠ []
  password : submission.pass.bind textOf = some pass
  stored : Stored submission.settings connection certificate

end Effects

/-! ## Receiving -/

/-- The whole declared body lies in the buffer, behind it a terminator. -/
structure Received (visitor : Visitor) (request : Request) (options : BitVec 32) (start : Connection)
    (region : Bytes) : Prop where
  length : region.length = getConfigurationRequestCapacity options (wifiSsidMaxLen + wifiPwdMaxLen)
  declared : 0 ≤ request.bodyNbytes
  fits : request.bodyNbytes < region.length
  body : region.take request.bodyNbytes.toNat =
    load visitor.stream (start.consumed + visitor.headerBytes) request.bodyNbytes.toNat
  terminated : region[request.bodyNbytes.toNat]? = some 0

section Receiving

variable {options : BitVec 32} {visitor : Visitor} {start : Server}

end Receiving

/-! ## Reading the form -/

/-- A call of the reader delivers a value, which may be empty. -/
def Form.Delivers (form : Form) (index : Nat) (name region : Bytes) (capacity : Nat) (text : Bytes) : Prop :=
  exists value, form.read index (name ++ [0]) (some region) capacity = some (0, some value) ∧
    textOf value = some text ∧ text.length < capacity

/-- What a form has to give, and what it gives. -/
structure Decoded (options : BitVec 32) (form : Form) (reads : Nat) (ssid pass : Bytes)
    (connection certificate : Option Bytes) : Prop where
  network : form.Gives reads ssidName (List.replicate (wifiSsidMaxLen + 1) 0) (wifiSsidMaxLen + 1) ssid
  password : form.Delivers (reads + 1) passwordName (List.replicate (wifiPwdMaxLen + 1) 0) (wifiPwdMaxLen + 1) pass
  settings : Assembled options form (reads + 2) connection certificate

/-- The variables before the first field is read. -/
structure Submission.Blank (submission : Submission) : Prop where
  ssid : submission.ssid = some (List.replicate (wifiSsidMaxLen + 1) 0)
  pass : submission.pass = some (List.replicate (wifiPwdMaxLen + 1) 0)
  settings : submission.settings = none

section Form

variable {board : Board} {options : BitVec 32} {form : Form} {start : Server}

end Form

/-- A submission that may be saved: the whole declared body was received, and
every field that the options call for was decoded from it. -/
def Submitted (surroundings : Surroundings) (options : BitVec 32) (visitor : Visitor) (start : Server)
    (ssid pass : Bytes) (connection certificate : Option Bytes) : Prop :=
  exists request region boundary, visitor.request = some request ∧
    Received visitor request options start.connection region ∧
    formBoundary request.contentType = some (.ok boundary) ∧
    Decoded options (webForm surroundings region boundary) start.reads ssid pass connection certificate

/-- The state at the label `_exit`. -/
structure Reached (surroundings : Surroundings) (options : BitVec 32) (visitor : Visitor) (start : Server)
    (submission : Submission) (state : Server) : Prop where
  live : state.heap.live = settingsBlocks submission.settings ++ (submission.buf.blocks ++ start.heap.live)
  effects : state.effects = start.effects
  valid : submission.err = 0 -> exists ssid pass connection certificate,
    Submitted surroundings options visitor start ssid pass connection certificate ∧
    submission.Holds ssid pass connection certificate

section Whole

variable {board : Board} {surroundings : Surroundings} {options : BitVec 32} {visitor : Visitor} {start : Server}

end Whole

end Web
end DevKit
