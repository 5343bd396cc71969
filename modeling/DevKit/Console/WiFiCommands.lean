import DevKit.Console.Terminal
import DevKit.Eeprom.Saved
import DevKit.Foundation.CString

namespace DevKit
namespace Console

open Procedure Eeprom

/-!
# Wi-Fi settings from the console and from the web page

The page saves a network name and a password with `saveWiFiSetting`, which checks
the number of their characters.  The console has a command for each of them, with a
check of its own that counts the terminator.  A network name that fails this check
is rejected; a password that fails it is reported, and then it is written like any
other one.

The EEPROM behaves as byte arrays do, and its operations succeed.
-/

variable {World : Type}

/-- The texts that a command prints, one for each `Serial.printf`. -/
abbrev Printed := List Bytes

def writeFailed (zone : UInt8) : Bytes :=
  literal "ERROR: Failed to write EEPROM: 0x" ++ [hexDigit (zone.toNat / 16), hexDigit (zone.toNat % 16)] ++
    literal ".\r\n"

def verifyFailed : Bytes := literal "ERROR: Verify failed.\r\n"

def ssidUsage : Bytes := literal "Usage: set_wifissid <SSID>. Please provide the SSID of the Wi-Fi.\r\n"

def ssidInvalid : Bytes := literal "Invalid Wi-Fi SSID.\r\n"

def ssidSet : Bytes := literal "INFO: Set Wi-Fi SSID successfully.\r\n"

def pwdUsage : Bytes := literal "Usage: set_wifipwd [password]. Please provide the password of the Wi-Fi.\r\n"

def pwdInvalid : Bytes := literal "Invalid Wi-Fi password.\r\n"

def pwdSet : Bytes := literal "INFO: Set Wi-Fi password successfully.\r\n"

/-! ## The commands -/

section Commands

variable (hal : Hal World)

/-- The code of `write_eeprom`, and what it prints. -/
def writeEeprom (string : Pointer) (zone : UInt8) :
    Procedure (Device World) (Leaving (Int × Printed)) (Int × Printed) := do
  let length <- defined (strlen string)
  let result <- call (Eeprom.write hal string (length + 1 : Nat) zone)
  reject (result ≠ 0) (.returned (-1, [writeFailed zone]))
  let pBuff <- malloc hal (length + 1)
  let answer <- call (Eeprom.read hal pBuff (length + 1 : Nat) 0 zone)
  if answer.1 ≠ (length + 1 : Nat) then pure (-1, [verifyFailed])
  else do
    let compared <- defined (string.bind fun one => answer.2.bind (strncmp (length + 1) one))
    if compared ≠ 0 then pure (-1, [verifyFailed]) else pure (0, [])

/-- Write a string and report it. -/
def writeReported (string : Pointer) (zone : UInt8) (before : Printed) (report : Bytes) :
    Procedure (Device World) (Leaving Printed) Printed := do
  let answer <- call (writeEeprom hal string zone)
  if answer.1 = 0 then pure (before ++ answer.2 ++ [report]) else pure (before ++ answer.2)

/-- `wifi_ssid_command`, with `argc` and `argv[1]`. -/
def wifiSsidCommand (argc : Nat) (argument : Pointer) : Procedure (Device World) (Leaving Printed) Printed := do
  reject (argc = 1 ∨ argument = none) (.returned [ssidUsage])
  let length <- defined (strlen argument)
  reject (length + 1 = 0 ∨ length + 1 > wifiSsidMaxLen) (.returned [ssidInvalid])
  writeReported hal argument wifiSsidZone [] ssidSet

/-- `wifi_pwd_Command`, with `argc` and `argv[1]`. -/
def wifiPwdCommand (argc : Nat) (argument : Pointer) : Procedure (Device World) (Leaving Printed) Printed :=
  if argc = 1 then writeReported hal (some [0]) wifiPwdZone [] pwdSet
  else do
    reject (argument = none) (.returned [pwdUsage])
    let length <- defined (strlen argument)
    writeReported hal argument wifiPwdZone (if length + 1 > wifiPwdMaxLen then [pwdInvalid] else []) pwdSet

end Commands

/-! ## What the commands do -/

section Effects

variable {hal : Hal World} {holds : Arrays -> Device World -> Prop} {arrays : Arrays} {start : Device World}

/-- Equal strings compare as equal. -/
theorem strncmp_self {text : Bytes} (plain : 0 ∉ text) (rest : Bytes) :
    strncmp (text.length + 1) (text ++ 0 :: rest) (text ++ [0]) = some 0 := by
  induction text with
  | nil => rfl
  | cons byte text inductionHypothesis =>
      have nonzero : byte ≠ 0 := fun zero => plain (zero ▸ List.mem_cons_self)
      rw [List.cons_append, List.cons_append, List.length_cons, strncmp, if_neg (fun different => different rfl),
        if_neg nonzero]
      exact inductionHypothesis fun member => plain (List.mem_cons_of_mem _ member)

/-- A string that fits into its zone is written and read back. -/
theorem writeEeprom_returns (eeprom : ByteArrays hal holds) (held : holds arrays start) (text : Text) {zone : UInt8}
    (fits : text.characters.length + 1 ≤ dataSegmentLength zone) :
    Returns (fun device => device = start) (writeEeprom hal (some text.region) zone) fun answer device =>
      answer = (0, []) ∧ holds (arrays.place zone text.stored) device := by
  have short := dataSegmentLength_le zone
  have room := text.length_region
  have length := text.length_stored
  have written := eeprom.writes arrays start text.region (text.characters.length + 1 : Nat) zone held (by omega)
  rw [arrays.write_front (Nat.succ_pos _) fits, text.take_region] at written
  refine Triple.defined text.strlen_region (Triple.bind written.call fun result => Triple.fix ?_)
  rintro middle ⟨rfl, placed⟩
  refine Triple.guard (fun different => absurd rfl different) fun _ => ?_
  rcases eeprom.allocates _ _ (text.characters.length + 1) placed with ⟨⟨buffer, allocated⟩, still⟩
  refine malloc_some allocated ?_
  have copied : (arrays.place zone text.stored).read buffer.bytes text.stored.length 0 zone =
      ((text.stored.length : Int), some text.stored) :=
    arrays.read_placed (by omega) (by omega) (by rw [buffer.length_eq, length])
  rw [length] at copied
  have readBack := eeprom.reads _ _ buffer.bytes (text.characters.length + 1 : Nat) 0 zone still
    (by rw [buffer.length_eq]) (show ((text.characters.length + 1 : Nat) : Int) + (0 : Nat) < 2 ^ 31 by omega)
  refine Triple.bind readBack.call fun answer => Triple.fix ?_
  rintro reached ⟨answered, unchanged⟩
  rw [show (0 : UInt16).toNat = 0 from rfl, copied] at answered
  subst answered
  refine Triple.ite (fun different => absurd rfl different) fun _ => ?_
  refine Triple.defined (strncmp_self text.plain text.rest) ?_
  refine Triple.ite (fun different => absurd rfl different) fun _ => Triple.pure ?_
  rintro device rfl
  exact ⟨rfl, unchanged⟩

/-- A string that is longer than its zone is not written. -/
theorem writeEeprom_fails (eeprom : ByteArrays hal holds) (held : holds arrays start) (text : Text) {zone : UInt8}
    (long : dataSegmentLength zone < text.characters.length + 1) :
    Returns (fun device => device = start) (writeEeprom hal (some text.region) zone) fun answer device =>
      answer = (-1, [writeFailed zone]) ∧ holds arrays device := by
  have room := text.length_region
  have refused : arrays.write text.region (text.characters.length + 1 : Nat) zone = (-1, arrays) := by
    rw [Arrays.write, if_neg (by omega)]
  have written := eeprom.writes arrays start text.region (text.characters.length + 1 : Nat) zone held (by omega)
  rw [refused] at written
  refine Triple.defined text.strlen_region (Triple.bind written.call fun result => Triple.fix ?_)
  rintro middle ⟨rfl, unchanged⟩
  refine Triple.guard (fun _ => ?_) fun same => absurd (show (-1 : Int) ≠ 0 by decide) same
  rintro device rfl
  exact ⟨rfl, unchanged⟩

theorem writeReported_returns (eeprom : ByteArrays hal holds) (held : holds arrays start) (text : Text) {zone : UInt8}
    (fits : text.characters.length + 1 ≤ dataSegmentLength zone) (before : Printed) (report : Bytes) :
    Returns (fun device => device = start) (writeReported hal (some text.region) zone before report)
      fun printed device => printed = before ++ [report] ∧ holds (arrays.place zone text.stored) device := by
  refine Triple.bind (writeEeprom_returns eeprom held text fits).call fun answer => Triple.fix ?_
  rintro reached ⟨rfl, placed⟩
  refine Triple.ite (fun _ => Triple.pure ?_) fun different => absurd rfl different
  rintro device rfl
  exact ⟨by rw [List.append_nil], placed⟩

theorem writeReported_fails (eeprom : ByteArrays hal holds) (held : holds arrays start) (text : Text) {zone : UInt8}
    (long : dataSegmentLength zone < text.characters.length + 1) (before : Printed) (report : Bytes) :
    Returns (fun device => device = start) (writeReported hal (some text.region) zone before report)
      fun printed device => printed = before ++ [writeFailed zone] ∧ holds arrays device := by
  refine Triple.bind (writeEeprom_fails eeprom held text long).call fun answer => Triple.fix ?_
  rintro reached ⟨rfl, unchanged⟩
  refine Triple.ite (fun same => absurd same (show (-1 : Int) ≠ 0 by decide)) fun _ => Triple.pure ?_
  rintro device rfl
  exact ⟨rfl, unchanged⟩

/-- A network name of at most 31 characters is written. -/
theorem wifiSsidCommand_returns (eeprom : ByteArrays hal holds) (held : holds arrays start) (text : Text)
    (short : text.characters.length + 1 ≤ wifiSsidMaxLen) :
    Returns (fun device => device = start) (wifiSsidCommand hal 2 (some text.region)) fun printed device =>
      printed = [ssidSet] ∧ holds (arrays.place wifiSsidZone text.stored) device := by
  have fits : text.characters.length + 1 ≤ dataSegmentLength wifiSsidZone := Nat.le_trans short (by decide)
  refine Triple.guard (fun missing => missing.elim nofun nofun) fun _ => ?_
  refine Triple.defined text.strlen_region (Triple.guard (fun wrong => ?_) fun _ => ?_)
  · exact wrong.elim nofun fun long => absurd long (Nat.not_lt.mpr short)
  · exact writeReported_returns eeprom held text fits [] ssidSet

theorem wifiSsidCommand_rejects (text : Text) (long : wifiSsidMaxLen < text.characters.length + 1) :
    Returns (fun device => device = start) (wifiSsidCommand hal 2 (some text.region)) fun printed device =>
      printed = [ssidInvalid] ∧ device = start := by
  refine Triple.guard (fun missing => missing.elim nofun nofun) fun _ => ?_
  refine Triple.defined text.strlen_region (Triple.guard (fun _ => ?_) fun right => absurd (Or.inr long) right)
  rintro device rfl
  exact ⟨rfl, rfl⟩

/-- The report about a password that is too long. -/
def pwdComplaint (text : Text) : Printed :=
  if text.characters.length + 1 > wifiPwdMaxLen then [pwdInvalid] else []

theorem wifiPwdCommand_returns (eeprom : ByteArrays hal holds) (held : holds arrays start) (text : Text)
    (fits : text.characters.length + 1 ≤ dataSegmentLength wifiPwdZone) :
    Returns (fun device => device = start) (wifiPwdCommand hal 2 (some text.region)) fun printed device =>
      printed = pwdComplaint text ++ [pwdSet] ∧ holds (arrays.place wifiPwdZone text.stored) device := by
  refine Triple.ite (fun impossible => nomatch impossible) fun _ => ?_
  refine Triple.guard (fun missing => nomatch missing) fun _ => Triple.defined text.strlen_region ?_
  exact writeReported_returns eeprom held text fits (pwdComplaint text) pwdSet

theorem wifiPwdCommand_fails (eeprom : ByteArrays hal holds) (held : holds arrays start) (text : Text)
    (long : dataSegmentLength wifiPwdZone < text.characters.length + 1) :
    Returns (fun device => device = start) (wifiPwdCommand hal 2 (some text.region)) fun printed device =>
      printed = pwdComplaint text ++ [writeFailed wifiPwdZone] ∧ holds arrays device := by
  refine Triple.ite (fun impossible => nomatch impossible) fun _ => ?_
  refine Triple.guard (fun missing => nomatch missing) fun _ => Triple.defined text.strlen_region ?_
  exact writeReported_fails eeprom held text long (pwdComplaint text) pwdSet

/-! ## The page -/

/-- The settings that the page may save. -/
def Acceptable (ssid pwd : Option Text) : Prop :=
  (exists text, ssid = some text ∧ text.characters ≠ [] ∧ text.characters.length ≤ wifiSsidMaxLen) ∧
    forall text, pwd = some text -> text.characters.length ≤ wifiPwdMaxLen

/-- All others are rejected before anything is written. -/
theorem saveWiFiSetting_rejects {ssid pwd : Option Text} (bad : ¬ Acceptable ssid pwd) :
    Returns (fun device => device = start) (saveWiFiSetting hal (ssid.map Text.region) (pwd.map Text.region))
      fun code device => code = -1 ∧ device = start := by
  have left : forall device, device = start -> (-1 : Int) = -1 ∧ device = start := fun _ same => ⟨rfl, same⟩
  cases ssid with
  | none => exact Triple.guard (fun _ => left) fun present => absurd rfl present
  | some ssid =>
      have room := ssid.length_region
      refine Triple.guard (fun absent => absurd absent (Option.some_ne_none _)) fun _ => ?_
      refine Triple.defined (fetch_some (by omega)) (Triple.guard (fun _ => left) fun nonzero => ?_)
      refine Triple.defined ssid.strlen_region (Triple.guard (fun _ => left) fun short => ?_)
      have nonempty : ssid.characters ≠ [] := by
        intro empty
        apply nonzero
        simp only [slice, Text.region, empty]
        rfl
      cases pwd with
      | none =>
          refine absurd ⟨⟨ssid, rfl, nonempty, Nat.not_lt.mp short⟩, ?_⟩ bad
          rintro _ ⟨⟩
      | some pwd =>
          refine Triple.ite (fun _ => ?_) fun absent => absurd (Option.some_ne_none _) absent
          refine Triple.defined pwd.strlen_region (Triple.guard (fun _ => left) fun shortPwd => ?_)
          refine absurd ⟨⟨ssid, rfl, nonempty, Nat.not_lt.mp short⟩, fun text same => ?_⟩ bad
          rw [← Option.some.inj same]
          exact Nat.not_lt.mp shortPwd

/-- What the page saves, zone by zone. -/
theorem saveWiFiSetting_accepts (eeprom : ByteArrays hal holds) (held : holds arrays start) {ssid : Text}
    {pwd : Option Text} (acceptable : Acceptable (some ssid) pwd) :
    exists device after, run (saveWiFiSetting hal (some ssid.region) (pwd.map Text.region)) start = some (0, device) ∧
      holds after device ∧ after wifiSsidZone = arrays.place wifiSsidZone ssid.stored wifiSsidZone ∧
      after wifiPwdZone = arrays.place wifiPwdZone (pwd.getD Text.empty).stored wifiPwdZone := by
  rcases acceptable with ⟨⟨_, same, nonempty, short⟩, shortPwd⟩
  cases same
  have ssidFits : ssid.stored.length ≤ dataSegmentLength wifiSsidZone := by
    rw [ssid.length_stored]
    exact Nat.le_trans (Nat.succ_le_succ short) (by decide)
  have pwdFits : (pwd.getD Text.empty).stored.length ≤ dataSegmentLength wifiPwdZone := by
    rw [Text.length_stored]
    exact Nat.le_trans (Nat.succ_le_succ (length_getD_le pwd shortPwd)) (by decide)
  rcases (saveWiFiSetting_returns eeprom held ssid pwd nonempty short shortPwd).run_eq rfl with
    ⟨_, device, ended, rfl, placed⟩
  rw [Kind.zones, Kind.zones, Arrays.placeAll_single _ pwdFits, Arrays.placeAll_single _ ssidFits] at placed
  have apart : wifiSsidZone ≠ wifiPwdZone := by decide
  refine ⟨device, _, ended, placed, Arrays.place_of_ne _ apart _, ?_⟩
  unfold Arrays.place
  rw [Function.update_self, Function.update_self, Function.update_of_ne apart.symm]

end Effects

/-! ## The comparison -/

section Comparison

variable (hal : Hal World) (holds : Arrays -> Device World -> Prop) (arrays : Arrays) (start : Device World)

/-- A command of the console and the page do the same with a value: the console
stores it and reports this if the page saves it together with some other value, with
the same bytes in the zone of the value.  Otherwise the console does not report it and
leaves the zones as they are. -/
structure Agrees (console : Procedure (Device World) (Leaving Printed) Printed)
    (web : Option Text -> Procedure (Device World) (Leaving Int) Int) (zone : UInt8) (report : Bytes) : Prop where
  accepted : forall other saved, run (web other) start = some (0, saved) ->
    exists printed device after webAfter, run console start = some (printed, device) ∧ report ∈ printed ∧
      holds after device ∧ holds webAfter saved ∧ after zone = webAfter zone
  rejected : (forall other saved, run (web other) start ≠ some (0, saved)) ->
    exists printed device, run console start = some (printed, device) ∧ report ∉ printed ∧ holds arrays device

/-- A network name from the console and from the page. -/
def SsidAgrees (text : Text) : Prop :=
  Agrees holds arrays start (wifiSsidCommand hal 2 (some text.region))
    (fun pwd => saveWiFiSetting hal (some text.region) (pwd.map Text.region)) wifiSsidZone ssidSet

/-- A password from the console and from the page. -/
def PwdAgrees (text : Text) : Prop :=
  Agrees holds arrays start (wifiPwdCommand hal 2 (some text.region))
    (fun ssid => saveWiFiSetting hal (ssid.map Text.region) (some text.region)) wifiPwdZone pwdSet

variable {hal holds arrays start}

theorem acceptable_of_saved (ssid pwd : Option Text) {saved : Device World}
    (same : run (saveWiFiSetting hal (ssid.map Text.region) (pwd.map Text.region)) start = some (0, saved)) :
    Acceptable ssid pwd := by
  by_contra bad
  exact absurd (Triple.run (saveWiFiSetting_rejects bad) rfl same).1 (by decide)

theorem ssidAgrees_iff (eeprom : ByteArrays hal holds) (held : holds arrays start) (text : Text) :
    SsidAgrees hal holds arrays start text <-> text.characters.length ≠ 0 ∧ text.characters.length ≠ 32 := by
  have alone (nonempty : text.characters ≠ []) (short : text.characters.length ≤ 32) : Acceptable (some text) none :=
    ⟨⟨text, rfl, nonempty, short⟩, nofun⟩
  have needed {pwd : Option Text} (acceptable : Acceptable (some text) pwd) :
      text.characters ≠ [] ∧ text.characters.length ≤ 32 := by
    rcases acceptable.1 with ⟨_, same, both⟩
    cases same
    exact both
  have silent : ssidSet ∉ [ssidInvalid] := by decide
  constructor
  · intro agrees
    constructor
    · intro empty
      have unsaved : forall pwd saved, run (saveWiFiSetting hal (some text.region) (Option.map Text.region pwd)) start ≠
          some (0, saved) := fun pwd saved same =>
        (needed (acceptable_of_saved (some text) pwd same)).1 (List.length_eq_zero_iff.mp empty)
      rcases agrees.rejected unsaved with ⟨printed, device, ended, unreported, _⟩
      have written := Triple.run (wifiSsidCommand_returns eeprom held text (by rw [empty]; decide)) rfl ended
      rw [written.1] at unreported
      exact unreported (List.mem_singleton_self _)
    · intro full
      have nonempty : text.characters ≠ [] := fun empty => by
        rw [empty] at full
        exact absurd full (by decide)
      rcases saveWiFiSetting_accepts eeprom held (alone nonempty (Nat.le_of_eq full)) with ⟨saved, _, accepted, _⟩
      rcases agrees.accepted none saved accepted with ⟨printed, device, _, _, ended, reported, _⟩
      have refused := Triple.run (wifiSsidCommand_rejects text (by rw [full]; decide)) rfl ended
      rw [refused.1] at reported
      exact silent reported
  · rintro ⟨nonempty, other⟩
    constructor
    · intro pwd saved same
      have acceptable := acceptable_of_saved (some text) pwd same
      have bounds := needed acceptable
      rcases saveWiFiSetting_accepts eeprom held acceptable with ⟨device, webAfter, accepted, heldWeb, zone, _⟩
      rcases (wifiSsidCommand_returns eeprom held text (show _ ≤ 32 by omega)).run_eq rfl with
        ⟨_, reached, ended, rfl, placed⟩
      have found : device = saved := (Prod.mk.inj (Option.some.inj (accepted.symm.trans same))).2
      exact ⟨_, reached, _, webAfter, ended, List.mem_singleton_self _, placed, found ▸ heldWeb, zone.symm⟩
    · intro unsaved
      have long : 32 < text.characters.length + 1 := by
        by_contra short
        rcases saveWiFiSetting_accepts eeprom held
          (alone (fun empty => nonempty (by rw [empty, List.length_nil])) (by omega)) with ⟨saved, _, accepted, _⟩
        exact unsaved none saved accepted
      rcases (wifiSsidCommand_rejects text long).run_eq rfl with ⟨_, reached, ended, rfl, same⟩
      exact ⟨_, reached, ended, silent, same ▸ held⟩

theorem pwdAgrees_iff (eeprom : ByteArrays hal holds) (held : holds arrays start) (text : Text) :
    PwdAgrees hal holds arrays start text <-> text.characters.length ≤ 64 ∨ 88 ≤ text.characters.length := by
  have needed {ssid : Option Text} (acceptable : Acceptable ssid (some text)) : text.characters.length ≤ 64 :=
    acceptable.2 text rfl
  have unsaved (long : 64 < text.characters.length) : forall ssid saved,
      run (saveWiFiSetting hal (Option.map Text.region ssid) (some text.region)) start ≠ some (0, saved) :=
    fun ssid saved same => Nat.not_lt.mpr (needed (acceptable_of_saved ssid (some text) same)) long
  constructor
  · intro agrees
    by_contra between
    have long : 64 < text.characters.length := by omega
    have fits : text.characters.length + 1 ≤ dataSegmentLength wifiPwdZone := by
      change _ ≤ 88
      omega
    rcases agrees.rejected (unsaved long) with ⟨printed, device, ended, unreported, _⟩
    have written := Triple.run (wifiPwdCommand_returns eeprom held text fits) rfl ended
    rw [written.1] at unreported
    exact unreported (List.mem_append_right _ (List.mem_singleton_self _))
  · intro lengths
    constructor
    · intro ssid saved same
      have acceptable := acceptable_of_saved ssid (some text) same
      have short := needed acceptable
      have fits : text.characters.length + 1 ≤ dataSegmentLength wifiPwdZone := by
        change _ ≤ 88
        omega
      rcases acceptable.1 with ⟨name, named, _⟩
      subst named
      rcases saveWiFiSetting_accepts eeprom held acceptable with ⟨device, webAfter, accepted, heldWeb, _, zone⟩
      rcases (wifiPwdCommand_returns eeprom held text fits).run_eq rfl with ⟨_, reached, ended, rfl, placed⟩
      have found : device = saved := (Prod.mk.inj (Option.some.inj (accepted.symm.trans same))).2
      exact ⟨_, reached, _, webAfter, ended, List.mem_append_right _ (List.mem_singleton_self _), placed,
        found ▸ heldWeb, zone.symm⟩
    · intro nowhere
      have long : dataSegmentLength wifiPwdZone < text.characters.length + 1 := by
        change 88 < _
        by_contra short
        have acceptable : Acceptable (some ⟨[65], [], by decide⟩) (some text) := by
          refine ⟨⟨_, rfl, by simp, by decide⟩, fun other same => ?_⟩
          rw [← Option.some.inj same]
          change _ ≤ 64
          omega
        rcases saveWiFiSetting_accepts eeprom held acceptable with ⟨saved, _, accepted, _⟩
        exact nowhere (some _) saved accepted
      rcases (wifiPwdCommand_fails eeprom held text long).run_eq rfl with ⟨_, reached, ended, rfl, unchanged⟩
      refine ⟨_, reached, ended, fun reported => ?_, unchanged⟩
      rcases List.mem_append.mp reported with complaint | failure
      · rw [pwdComplaint] at complaint
        split at complaint
        · exact absurd complaint (by decide)
        · exact absurd complaint List.not_mem_nil
      · exact absurd failure (by decide)

/-- On every EEPROM that behaves as byte arrays, with any contents, the console and
the page agree about a network name exactly if it has neither 0 nor 32 characters,
and about a password exactly if it does not have 65 to 87 characters. -/
theorem console_web_agree_iff (eeprom : ByteArrays hal holds) (held : holds arrays start) (text : Text) :
    (SsidAgrees hal holds arrays start text <-> text.characters.length ≠ 0 ∧ text.characters.length ≠ 32) ∧
    (PwdAgrees hal holds arrays start text <-> text.characters.length ≤ 64 ∨ 88 ≤ text.characters.length) :=
  ⟨ssidAgrees_iff eeprom held text, pwdAgrees_iff eeprom held text⟩

end Comparison

/-- On the chip, for a value of three characters. -/
theorem console_web_agree_chip : exists start arrays,
    run (enableHostSecureChannel (Chip.hal fun _ => false) 1 none) ⟨Chip.blank, []⟩ = some (0, start) ∧
    SsidAgrees (Chip.hal fun _ => false) (Represents (Chip.hal fun _ => false) Chip.envelopes) arrays start
      ⟨literal "net", [], by decide⟩ ∧
    PwdAgrees (Chip.hal fun _ => false) (Represents (Chip.hal fun _ => false) Chip.envelopes) arrays start
      ⟨literal "net", [], by decide⟩ := by
  rcases enabled_represents (Chip.hal_lawful fun _ => false) (fun _ _ _ _ _ => rfl) Chip.blank none
    (by decide +kernel) with ⟨start, enabled, arrays, represents, _⟩
  have both := console_web_agree_iff ((Chip.hal_lawful fun _ => false).byteArrays fun _ _ _ _ _ => rfl) represents
    ⟨literal "net", [], by decide⟩
  exact ⟨start, arrays, enabled, both.1.mpr (by decide), both.2.mpr (by decide)⟩

/-- The console stores an empty network name, rejects one of 32 characters, and
stores a password of 65 characters; the page does the opposite. -/
theorem console_web_disagree : exists start arrays,
    run (enableHostSecureChannel (Chip.hal fun _ => false) 1 none) ⟨Chip.blank, []⟩ = some (0, start) ∧
    ¬ SsidAgrees (Chip.hal fun _ => false) (Represents (Chip.hal fun _ => false) Chip.envelopes) arrays start Text.empty ∧
    ¬ SsidAgrees (Chip.hal fun _ => false) (Represents (Chip.hal fun _ => false) Chip.envelopes) arrays start
      ⟨List.replicate 32 65, [], by decide⟩ ∧
    ¬ PwdAgrees (Chip.hal fun _ => false) (Represents (Chip.hal fun _ => false) Chip.envelopes) arrays start
      ⟨List.replicate 65 65, [], by decide⟩ := by
  have eeprom := (Chip.hal_lawful fun _ => false).byteArrays fun _ _ _ _ _ => rfl
  rcases enabled_represents (Chip.hal_lawful fun _ => false) (fun _ _ _ _ _ => rfl) Chip.blank none
    (by decide +kernel) with ⟨start, enabled, arrays, represents, _⟩
  refine ⟨start, arrays, enabled, ?_, ?_, ?_⟩
  · rw [ssidAgrees_iff eeprom represents]
    decide
  · rw [ssidAgrees_iff eeprom represents]
    decide
  · rw [pwdAgrees_iff eeprom represents]
    decide

end Console
end DevKit
