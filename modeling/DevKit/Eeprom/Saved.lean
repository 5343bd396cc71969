import DevKit.Eeprom.Migration
import DevKit.Eeprom.Settings
import DevKit.Foundation.History

namespace DevKit
namespace Eeprom

open Procedure

/-!
# Settings read back as they were saved

Each save puts its strings at the front of the zones of their kinds, and each
read copies the front of the zones of a kind into the caller's buffer and ends
it with a terminator.  A run of saves and reads therefore answers every read
with the last value saved of its kind, cut to the size of the buffer.
-/

variable {World : Type} {hal : Hal World} {holds : Arrays -> Device World -> Prop} {arrays : Arrays}
  {start : Device World}

/-! ## Saves -/

theorem drop_min (values : Bytes) (count : Nat) : values.drop (min values.length count) = values.drop count := by
  by_cases short : values.length ≤ count
  · rw [Nat.min_eq_left short, List.drop_length, List.drop_eq_nil_of_le short]
  · rw [Nat.min_eq_right (by omega)]

/-- Save a string in a zone that has room for it. -/
theorem saveText_returns (eeprom : ByteArrays hal holds) (held : holds arrays start) (text : Text) {zone : UInt8}
    (fits : text.characters.length + 1 ≤ dataSegmentLength zone) :
    Returns (fun device => device = start)
      (writeWithVerify hal (some text.region) (text.characters.length + 1) zone) fun code device =>
        code = 0 ∧ holds (Arrays.placeAll [zone] text.stored arrays) device := by
  have length := text.length_stored
  rw [Arrays.placeAll_single arrays (by omega), ← text.take_region]
  exact writeWithVerify_returns eeprom held (Nat.succ_pos _) fits text.length_region

theorem saveWiFiSetting_returns (eeprom : ByteArrays hal holds) (held : holds arrays start) (ssid : Text)
    (pwd : Option Text) (nonempty : ssid.characters ≠ []) (short : ssid.characters.length ≤ wifiSsidMaxLen)
    (shortPwd : forall text, pwd = some text -> text.characters.length ≤ wifiPwdMaxLen) :
    Returns (fun device => device = start)
      (saveWiFiSetting hal (some ssid.region) (pwd.map Text.region)) fun code device =>
        code = 0 ∧ holds (Arrays.placeAll Kind.password.zones (pwd.getD Text.empty).stored
          (Arrays.placeAll Kind.ssid.zones ssid.stored arrays)) device := by
  change ssid.characters.length ≤ 32 at short
  have room := ssid.length_region
  have first : slice ssid.region 0 1 ≠ [0] := by
    rcases character : ssid.characters with _ | ⟨byte, rest⟩
    · exact absurd character nonempty
    · rw [Text.region, character]
      intro zero
      cases zero
      exact ssid.plain (by rw [character]; exact List.mem_cons_self)
  have fits : ssid.characters.length + 1 ≤ dataSegmentLength wifiSsidZone := by
    change _ ≤ 120
    omega
  refine Triple.guard (fun absent => absurd absent (Option.some_ne_none _)) fun _ => ?_
  refine Triple.defined (fetch_some (by omega)) (Triple.guard (fun zero => absurd zero first) fun _ => ?_)
  refine Triple.defined ssid.strlen_region (Triple.guard (fun long => ?_) fun _ => ?_)
  · exact absurd long (Nat.not_lt.mpr short)
  have saved : forall text : Text, text.characters.length ≤ 64 -> forall middle,
      holds (Arrays.placeAll Kind.ssid.zones ssid.stored arrays) middle ->
      Returns (fun device => device = middle)
        (writeWithVerify hal (some text.region) (text.characters.length + 1) wifiPwdZone) fun code device =>
          code = 0 ∧ holds (Arrays.placeAll Kind.password.zones text.stored
            (Arrays.placeAll Kind.ssid.zones ssid.stored arrays)) device := by
    intro text short middle placed
    apply saveText_returns eeprom placed text
    change _ ≤ 88
    omega
  have stored := saveText_returns eeprom held ssid fits
  cases pwd with
  | none =>
      refine Triple.ite (fun present => absurd rfl present) fun _ => ?_
      refine Triple.bind stored.call fun ret => Triple.fix ?_
      rintro middle ⟨rfl, placed⟩
      refine Triple.guard (fun different => absurd rfl different) fun _ => ?_
      exact Triple.ite (fun _ => (saved Text.empty (by decide) middle placed).call)
        fun absent => absurd rfl absent
  | some pwd =>
      have shortPwd : pwd.characters.length ≤ 64 := shortPwd pwd rfl
      refine Triple.ite (fun _ => ?_) fun absent => absurd (Option.some_ne_none _) absent
      refine Triple.defined pwd.strlen_region (Triple.guard (fun long => absurd long (Nat.not_lt.mpr shortPwd)) ?_)
      intro _
      refine Triple.bind stored.call fun ret => Triple.fix ?_
      rintro middle ⟨rfl, placed⟩
      refine Triple.guard (fun different => absurd rfl different) fun _ => ?_
      refine Triple.ite (fun absent => absurd absent (Option.some_ne_none _)) fun _ => ?_
      exact Triple.defined pwd.strlen_region ((saved pwd shortPwd middle placed).call)

theorem saveDeviceConnectionString_returns (eeprom : ByteArrays hal holds) (held : holds arrays start)
    (deviceString : Option Text)
    (short : forall text, deviceString = some text -> text.characters.length + 1 ≤ deviceConnectionMaxLen) :
    Returns (fun device => device = start)
      (saveDeviceConnectionString hal (deviceString.map Text.region)) fun code device =>
        code = 0 ∧ holds (Arrays.placeAll Kind.connection.zones (deviceString.getD Text.empty).stored arrays)
          device := by
  have saved : forall text : Text, text.characters.length + 1 ≤ 512 ->
      Returns (fun device => device = start)
        (writeWithVerify hal (some text.region) (text.characters.length + 1) deviceConnectionZone)
        fun code device => code = 0 ∧ holds (Arrays.placeAll Kind.connection.zones text.stored arrays) device := by
    intro text short
    apply saveText_returns eeprom held text
    change _ ≤ 584
    omega
  unfold saveDeviceConnectionString
  cases deviceString with
  | none =>
      rw [Option.map_none, if_pos rfl]
      refine Triple.pureBind (Triple.guard (fun long => absurd long (by decide)) fun _ => ?_)
      exact (saved Text.empty (by decide)).call
  | some text =>
      have short : text.characters.length + 1 ≤ 512 := short text rfl
      have present : ¬ some text.region = none := Option.some_ne_none _
      rw [Option.map_some, if_neg present]
      refine Triple.defined text.strlen_region (Triple.pureBind ?_)
      refine Triple.guard (fun long => absurd long (Nat.not_lt.mpr short)) fun _ => ?_
      rw [if_neg present]
      exact (saved text short).call

/-- Save the next piece of a certificate.  A piece that is empty is not written. -/
theorem saveX509Piece_triple (eeprom : ByteArrays hal holds) (held : holds arrays start) {text : Text}
    {written : Nat} {zone : UInt8} {exited : Leaving Int -> Device World -> Prop}
    (nonempty : 0 < dataSegmentLength zone) :
    Triple (fun device => device = start)
      (saveX509Piece hal (some text.region) text.stored.length written zone)
      (fun next device => next = written + min (text.stored.length - written) (dataSegmentLength zone) ∧
        holds (arrays.place zone ((text.stored.drop written).take (dataSegmentLength zone))) device) exited := by
  have room := text.length_region
  have length := text.length_stored
  unfold saveX509Piece
  by_cases more : text.stored.length - written > 0
  · rw [if_pos more]
    have size : (if text.stored.length - written > dataSegmentLength zone then dataSegmentLength zone
        else text.stored.length - written) = min (text.stored.length - written) (dataSegmentLength zone) := by
      by_cases long : text.stored.length - written > dataSegmentLength zone
      · rw [if_pos long, Nat.min_eq_right (Nat.le_of_lt long)]
      · rw [if_neg long, Nat.min_eq_left (Nat.not_lt.mp long)]
    have piece : (text.region.drop written).take (min (text.stored.length - written) (dataSegmentLength zone)) =
        (text.stored.drop written).take (dataSegmentLength zone) := by
      rw [text.region_eq, List.drop_append_of_le_length (by omega), Nat.min_comm, ← List.take_take,
        List.take_left' List.length_drop]
    have source : min (text.stored.length - written) (dataSegmentLength zone) ≤ (text.region.drop written).length := by
      rw [List.length_drop]
      omega
    have wrote := writeWithVerify_returns eeprom held (by omega) (Nat.min_le_right _ _) source
    rw [piece] at wrote
    rw [size]
    refine Triple.bind wrote.call fun result => Triple.fix ?_
    rintro reached ⟨rfl, placed⟩
    refine Triple.guard (fun different => absurd rfl different) fun _ => Triple.pure ?_
    rintro device rfl
    exact ⟨rfl, placed⟩
  · rw [if_neg more]
    refine Triple.pure ?_
    rintro device rfl
    rw [List.drop_eq_nil_of_le (by omega), List.take_nil, Arrays.place_nil]
    exact ⟨by omega, held⟩

theorem saveX509Cert_returns (eeprom : ByteArrays hal holds) (held : holds arrays start) (text : Text)
    (short : text.characters.length ≤ x509MaxLen) :
    Returns (fun device => device = start) (saveX509Cert hal (some text.region)) fun code device =>
      code = 0 ∧ holds (Arrays.placeAll Kind.certificate.zones text.stored arrays) device := by
  have length := text.length_stored
  refine Triple.guard (fun impossible => (nomatch impossible)) fun _ => ?_
  refine Triple.defined text.strlen_region (Triple.guard (fun long => absurd long (Nat.not_lt.mpr short)) fun _ => ?_)
  rw [← length]
  refine Triple.bind (saveX509Piece_triple eeprom held (by decide)) fun first => Triple.fix ?_
  rintro one ⟨rfl, held⟩
  refine Triple.bind (saveX509Piece_triple eeprom held (by decide)) fun second => Triple.fix ?_
  rintro two ⟨rfl, held⟩
  refine Triple.bind (saveX509Piece_triple eeprom held (by decide)) fun third => Triple.pure ?_
  rintro device ⟨rfl, held⟩
  have one : 0 + min (text.stored.length - 0) (dataSegmentLength 0) =
      min text.stored.length (dataSegmentLength 0) := by omega
  have two : min text.stored.length (dataSegmentLength 0) +
      min (text.stored.length - min text.stored.length (dataSegmentLength 0)) (dataSegmentLength 7) =
      min text.stored.length (dataSegmentLength 0 + dataSegmentLength 7) := by omega
  rw [one, two, drop_min, drop_min, ← List.drop_drop] at held
  exact ⟨rfl, held⟩

/-! ## Reads -/

/-- Read the front of a zone. -/
theorem readFront_triple {Value : Type} (eeprom : ByteArrays hal holds) (held : holds arrays start) {buffer : Bytes}
    {size : Int} {zone : UInt8} {exited : Leaving Value -> Device World -> Prop} (positive : 0 < size)
    (room : size ≤ buffer.length) (small : size < 2 ^ 31) (nonempty : 0 < dataSegmentLength zone) :
    Triple (fun device => device = start) (call (read hal (some buffer) size 0 zone))
      (fun answer device => (answer.1 ≠ -1 ∧
        answer.2 = some (splice buffer 0 ((arrays zone).bytes.take size.toNat))) ∧ holds arrays device) exited := by
  have bounded : size + (0 : UInt16).toNat < 2 ^ 31 := by
    change size + (0 : Nat) < 2 ^ 31
    omega
  refine Triple.weaken (Returns.call (eeprom.reads _ _ _ _ _ zone held room bounded)) (fun _ same => same) ?_
    fun _ _ left => left
  rintro answer device ⟨rfl, unchanged⟩
  rw [show (0 : UInt16).toNat = 0 from rfl, arrays.read_front positive nonempty]
  exact ⟨⟨by omega, rfl⟩, unchanged⟩

/-- A value in a buffer after it was read and cut to the buffer's size. -/
def Delivered (value : Bytes) (size : Int) (buffer : Pointer) : Prop :=
  exists region, buffer = some region ∧ textOf region = some (value.take (size.toNat - 1))

/-- Read a value of a kind with one zone into a buffer. -/
theorem Kept.delivered {settings : Kind -> Option Bytes} (kept : Kept settings arrays) {kind : Kind}
    {value buffer : Bytes} {size : Int} (saved : settings kind = some value) (positive : 0 < size)
    (room : size ≤ buffer.length) :
    Delivered value size (some (splice (splice buffer 0 ((arrays.joined kind.zones).take size.toNat))
      (size - 1).toNat [0])) := by
  rcases kept kind value saved with ⟨plain, starts⟩
  have last : (size - 1).toNat = size.toNat - 1 := by omega
  rw [last]
  exact ⟨_, rfl, textOf_splice plain starts (by omega) (by omega)⟩

/-- The terminator goes into the last byte of the buffer. -/
theorem store_last {buffer data : Bytes} {size : Int} (positive : 0 < size) (room : size ≤ buffer.length) :
    store (some (splice buffer 0 (data.take size.toNat))) (size - 1).toNat [0] =
      some (some (splice (splice buffer 0 (data.take size.toNat)) (size - 1).toNat [0])) := by
  apply store_some
  rw [length_splice]
  · change (size - 1).toNat + 1 ≤ buffer.length
    omega
  · rw [List.length_take]
    omega

/-- A zone alone. -/
theorem joined_single (arrays : Arrays) (zone : UInt8) : arrays.joined [zone] = (arrays zone).bytes := by
  rw [Arrays.joined, List.flatMap_cons, List.flatMap_nil, List.append_nil]

/-- What a read of one kind is called with: room for the size, which is a
positive `int`. -/
structure Room (buffer : Bytes) (size : Int) : Prop where
  positive : 0 < size
  within : size ≤ buffer.length
  small : size < 2 ^ 31

theorem readWiFiSetting_returns (eeprom : ByteArrays hal holds) (held : holds arrays start)
    {settings : Kind -> Option Bytes} (kept : Kept settings arrays) {ssid pwd : Bytes} {ssidSize pwdSize : Int}
    (ssidRoom : Room ssid ssidSize) (pwdRoom : Room pwd pwdSize) :
    Returns (fun device => device = start) (readWiFiSetting hal (some ssid) ssidSize (some pwd) pwdSize)
      fun answer device => (answer.1 = 0 ∧
        (forall value, settings .ssid = some value -> Delivered value ssidSize answer.2.1) ∧
        (forall value, settings .password = some value -> Delivered value pwdSize answer.2.2)) ∧
        holds arrays device := by
  refine Triple.guard ?_ fun _ => ?_
  · rintro (impossible | negative)
    · cases impossible
    · exact absurd ssidRoom.positive (by omega)
  refine Triple.bind (readFront_triple eeprom held ssidRoom.positive ssidRoom.within ssidRoom.small (by decide))
    fun answer => Triple.fix ?_
  rintro middle ⟨⟨fine, target⟩, held⟩
  refine Triple.guard (fun failed => absurd failed fine) fun _ => ?_
  rw [target]
  refine Triple.defined (store_last ssidRoom.positive ssidRoom.within) (Triple.ite (fun _ => ?_) fun absent => ?_)
  · refine Triple.bind (readFront_triple eeprom held pwdRoom.positive pwdRoom.within pwdRoom.small (by decide))
      fun answer => Triple.fix ?_
    rintro later ⟨⟨fine, target⟩, held⟩
    refine Triple.guard (fun failed => absurd failed fine) fun _ => ?_
    rw [target]
    refine Triple.defined (store_last pwdRoom.positive pwdRoom.within) (Triple.pure ?_)
    rintro device rfl
    refine ⟨⟨rfl, fun value saved => ?_, fun value saved => ?_⟩, held⟩
    · rw [← joined_single arrays wifiSsidZone]
      exact kept.delivered saved ssidRoom.positive ssidRoom.within
    · rw [← joined_single arrays wifiPwdZone]
      exact kept.delivered saved pwdRoom.positive pwdRoom.within
  · exact absurd ⟨Option.some_ne_none _, pwdRoom.positive⟩ absent

theorem readDeviceConnectionString_returns (eeprom : ByteArrays hal holds) (held : holds arrays start)
    {settings : Kind -> Option Bytes} (kept : Kept settings arrays) {buffer : Bytes} {size : Int}
    (room : Room buffer size) :
    Returns (fun device => device = start) (readDeviceConnectionString hal (some buffer) size)
      fun answer device => (answer.1 = 0 ∧
        forall value, settings .connection = some value -> Delivered value size answer.2) ∧
        holds arrays device := by
  refine Triple.guard ?_ fun _ => ?_
  · rintro (impossible | negative)
    · cases impossible
    · exact absurd room.positive (by omega)
  refine Triple.bind (readFront_triple eeprom held room.positive room.within room.small (by decide))
    fun answer => Triple.fix ?_
  rintro middle ⟨⟨fine, target⟩, held⟩
  refine Triple.guard (fun failed => absurd failed fine) fun _ => ?_
  rw [target]
  refine Triple.defined (store_last room.positive room.within) (Triple.pure ?_)
  rintro device rfl
  refine ⟨⟨rfl, fun value saved => ?_⟩, held⟩
  rw [← joined_single]
  exact kept.delivered saved room.positive room.within

/-- Read the next piece of a certificate behind the bytes read before.  A piece
for which there is no room is not read. -/
theorem readX509Piece_triple (eeprom : ByteArrays hal holds) (held : holds arrays start) {buffer before : Bytes}
    {size : Int} {dataRead : Nat} {zone : UInt8} {exited : Leaving (Int × Pointer) -> Device World -> Prop}
    (room : Room buffer size) (count : dataRead = before.length) (fits : dataRead ≤ size.toNat)
    (nonempty : 0 < dataSegmentLength zone) :
    Triple (fun device => device = start)
      (readX509Piece hal size dataRead (some (splice buffer 0 before)) zone)
      (fun answer device => (answer.1 = dataRead + min (size.toNat - dataRead) (dataSegmentLength zone) ∧
        answer.2 = some (splice buffer 0 (before ++ (arrays zone).bytes.take (size.toNat - dataRead)))) ∧
        holds arrays device) exited := by
  have within := room.within
  have small := room.small
  have length := (arrays zone).length_eq
  have region : (splice buffer 0 before).length = buffer.length := length_splice (by omega)
  unfold readX509Piece
  by_cases more : size - dataRead > 0
  · rw [if_pos more]
    have amount : (if size - dataRead > dataSegmentLength zone then (dataSegmentLength zone : Int)
        else size - dataRead) = (min (size.toNat - dataRead) (dataSegmentLength zone) : Nat) := by
      by_cases long : size - dataRead > dataSegmentLength zone
      · rw [if_pos long]
        omega
      · rw [if_neg long]
        omega
    have cut : (arrays zone).bytes.take (min (size.toNat - dataRead) (dataSegmentLength zone)) =
        (arrays zone).bytes.take (size.toNat - dataRead) := by
      rw [← List.take_take, List.take_of_length_le (Nat.le_of_eq length)]
    have target : ((splice buffer 0 before).drop dataRead).length = buffer.length - dataRead := by
      rw [List.length_drop, region]
    rw [amount]
    refine Triple.bind (readFront_triple eeprom held (by omega) (by omega) (by omega) nonempty)
      fun answer => Triple.fix ?_
    rintro reached ⟨⟨fine, answered⟩, held⟩
    refine Triple.guard (fun failed => absurd failed fine) fun _ => Triple.pure ?_
    rintro device rfl
    refine ⟨⟨by rw [Int.toNat_natCast], ?_⟩, held⟩
    rw [answered, Int.toNat_natCast, cut, count]
    exact congrArg some (take_append_splice buffer before _)
  · rw [if_neg more]
    refine Triple.pure ?_
    rintro device rfl
    have none : size.toNat - dataRead = 0 := by omega
    rw [none, Nat.zero_min, Nat.add_zero, List.take_zero, List.append_nil]
    exact ⟨⟨rfl, rfl⟩, held⟩

theorem readX509Cert_returns (eeprom : ByteArrays hal holds) (held : holds arrays start)
    {settings : Kind -> Option Bytes} (kept : Kept settings arrays) {buffer : Bytes} {size : Int}
    (room : Room buffer size) :
    Returns (fun device => device = start) (readX509Cert hal (some buffer) size)
      fun answer device => (answer.1 = 0 ∧
        forall value, settings .certificate = some value -> Delivered value size answer.2) ∧
        holds arrays device := by
  have positive := room.positive
  have lengths : forall zone, (arrays zone).bytes.length = dataSegmentLength zone := fun zone => (arrays zone).length_eq
  refine Triple.guard ?_ fun _ => ?_
  · rintro (impossible | negative)
    · cases impossible
    · exact absurd positive (by omega)
  have whole : splice buffer 0 [] = buffer := by
    rw [splice_zero]
    rfl
  nth_rewrite 1 [← whole]
  refine Triple.bind (readX509Piece_triple eeprom held room rfl (Nat.zero_le _) (by decide))
    fun first => Triple.fix ?_
  rintro one ⟨⟨firstCount, firstBytes⟩, held⟩
  rw [firstCount, firstBytes]
  refine Triple.bind (readX509Piece_triple eeprom held room ?_ (by omega) (by decide)) fun second => Triple.fix ?_
  · rw [List.nil_append, List.length_take, lengths]
    omega
  rintro two ⟨⟨secondCount, secondBytes⟩, held⟩
  rw [secondCount, secondBytes]
  refine Triple.bind (readX509Piece_triple eeprom held room ?_ (by omega) (by decide)) fun third => Triple.fix ?_
  · rw [List.nil_append, List.length_append, List.length_take, List.length_take, lengths, lengths]
    omega
  rintro three ⟨⟨thirdCount, thirdBytes⟩, held⟩
  have joined : [] ++ (arrays 0).bytes.take (size.toNat - 0) ++
      (arrays 7).bytes.take (size.toNat - (0 + min (size.toNat - 0) (dataSegmentLength 0))) ++
      (arrays 8).bytes.take (size.toNat - (0 + min (size.toNat - 0) (dataSegmentLength 0) +
        min (size.toNat - (0 + min (size.toNat - 0) (dataSegmentLength 0))) (dataSegmentLength 7))) =
      (arrays.joined Kind.certificate.zones).take size.toNat := by
    have content : arrays.joined Kind.certificate.zones =
        (arrays 0).bytes ++ ((arrays 7).bytes ++ (arrays 8).bytes) := by
      change (arrays 0).bytes ++ ((arrays 7).bytes ++ ((arrays 8).bytes ++ [])) = _
      rw [List.append_nil]
    have second : size.toNat - (0 + min (size.toNat - 0) (dataSegmentLength 0)) =
        size.toNat - dataSegmentLength 0 := by omega
    have third : size.toNat - (0 + min (size.toNat - 0) (dataSegmentLength 0) +
        min (size.toNat - dataSegmentLength 0) (dataSegmentLength 7)) =
        size.toNat - dataSegmentLength 0 - dataSegmentLength 7 := by omega
    rw [content, List.take_append, List.take_append, lengths, lengths, second, third, List.nil_append,
      List.append_assoc, Nat.sub_zero]
  rw [thirdBytes, joined]
  refine Triple.defined (store_last positive room.within) (Triple.pure ?_)
  rintro device rfl
  exact ⟨⟨rfl, fun value saved => kept.delivered saved positive room.within⟩, held⟩

/-! ## Runs of saves and reads -/

/-- A save or a read of settings, with the caller's strings and buffers. -/
inductive Request where
  | saveWiFiSetting (ssid : Text) (pwd : Option Text)
  | saveDeviceConnectionString (deviceString : Option Text)
  | saveX509Cert (x509Cert : Text)
  | readWiFiSetting (ssid : Bytes) (ssidSize : Int) (pwd : Bytes) (pwdSize : Int)
  | readDeviceConnectionString (deviceConnString : Bytes) (buffSize : Int)
  | readX509Cert (x509Cert : Bytes) (buffSize : Int)

namespace Request

/-- The strings have the lengths that the zones are meant for, and the buffers
have the sizes passed with them. -/
def Allowed : Request -> Prop
  | saveWiFiSetting ssid pwd =>
      (1 ≤ ssid.characters.length ∧ ssid.characters.length ≤ 32) ∧
        forall text, pwd = some text -> text.characters.length ≤ 64
  | saveDeviceConnectionString deviceString =>
      forall text, deviceString = some text -> text.characters.length ≤ 511
  | saveX509Cert x509Cert => x509Cert.characters.length ≤ 2639
  | readWiFiSetting ssid ssidSize pwd pwdSize => Room ssid ssidSize ∧ Room pwd pwdSize
  | readDeviceConnectionString deviceConnString buffSize => Room deviceConnString buffSize
  | readX509Cert x509Cert buffSize => Room x509Cert buffSize

/-- The value of a kind that a request saves.  A null pointer saves the empty string. -/
def saved : Request -> Kind -> Option Bytes
  | saveWiFiSetting ssid _, .ssid => some ssid.characters
  | saveWiFiSetting _ pwd, .password => some (pwd.getD Text.empty).characters
  | saveDeviceConnectionString deviceString, .connection => some (deviceString.getD Text.empty).characters
  | saveX509Cert x509Cert, .certificate => some x509Cert.characters
  | _, _ => none

/-- The code a request returns, with the caller's buffers afterwards. -/
def perform (hal : Hal World) (device : Device World) : Request -> Option ((Int × List Pointer) × Device World)
  | saveWiFiSetting ssid pwd =>
      (run (Eeprom.saveWiFiSetting hal (some ssid.region) (pwd.map Text.region)) device).map fun answer =>
        ((answer.1, []), answer.2)
  | saveDeviceConnectionString deviceString =>
      (run (Eeprom.saveDeviceConnectionString hal (deviceString.map Text.region)) device).map fun answer =>
        ((answer.1, []), answer.2)
  | saveX509Cert x509Cert =>
      (run (Eeprom.saveX509Cert hal (some x509Cert.region)) device).map fun answer => ((answer.1, []), answer.2)
  | readWiFiSetting ssid ssidSize pwd pwdSize =>
      (run (Eeprom.readWiFiSetting hal (some ssid) ssidSize (some pwd) pwdSize) device).map fun answer =>
        ((answer.1.1, [answer.1.2.1, answer.1.2.2]), answer.2)
  | readDeviceConnectionString deviceConnString buffSize =>
      (run (Eeprom.readDeviceConnectionString hal (some deviceConnString) buffSize) device).map fun answer =>
        ((answer.1.1, [answer.1.2]), answer.2)
  | readX509Cert x509Cert buffSize =>
      (run (Eeprom.readX509Cert hal (some x509Cert) buffSize) device).map fun answer =>
        ((answer.1.1, [answer.1.2]), answer.2)

end Request

/-- A request with its answer. -/
abbrev Served := Request × Int × List Pointer

/-- The last value of a kind saved in a history. -/
def lastSaved (history : List Served) (kind : Kind) : Option Bytes :=
  latest (fun entry => entry.1.saved kind) history

/-- A request returns 0, and a read leaves the last values saved before it. -/
def Answered (before : List Served) : Served -> Prop
  | (.readWiFiSetting _ ssidSize _ pwdSize, code, buffers) =>
      code = 0 ∧ exists ssid pwd, buffers = [ssid, pwd] ∧
        (forall value, lastSaved before .ssid = some value -> Delivered value ssidSize ssid) ∧
        (forall value, lastSaved before .password = some value -> Delivered value pwdSize pwd)
  | (.readDeviceConnectionString _ buffSize, code, buffers) =>
      code = 0 ∧ exists buffer, buffers = [buffer] ∧
        forall value, lastSaved before .connection = some value -> Delivered value buffSize buffer
  | (.readX509Cert _ buffSize, code, buffers) =>
      code = 0 ∧ exists buffer, buffers = [buffer] ∧
        forall value, lastSaved before .certificate = some value -> Delivered value buffSize buffer
  | (_, code, _) => code = 0

/-- Serve requests one after the other, with the history so far. -/
def serve (hal : Hal World) : List Request -> List Served -> Device World -> Option (List Served × Device World)
  | [], history, device => some (history, device)
  | request :: requests, history, device =>
      (request.perform hal device).bind fun answer =>
        serve hal requests (history ++ [(request, answer.1)]) answer.2

theorem lastSaved_concat (history : List Served) (entry : Served) (kind : Kind) :
    lastSaved (history ++ [entry]) kind = (entry.1.saved kind).or (lastSaved history kind) :=
  latest_concat _ _ _

/-- A bound on a string holds of the empty string as well. -/
theorem length_getD_le (text : Option Text) {limit : Nat}
    (short : forall present, text = some present -> present.characters.length ≤ limit) :
    (text.getD Text.empty).characters.length ≤ limit := by
  cases text with
  | none => exact Nat.zero_le _
  | some present => exact short present rfl

/-- One request, answered on arrays that keep what was saved before it. -/
theorem perform_answered (eeprom : ByteArrays hal holds) {history : List Served} (held : holds arrays start)
    (kept : Kept (lastSaved history) arrays) {request : Request} (allowed : request.Allowed) :
    exists answer reached, request.perform hal start = some (answer, reached) ∧
      Answered history (request, answer) ∧
      exists after, holds after reached ∧ Kept (lastSaved (history ++ [(request, answer)])) after := by
  have reading : forall answer, (forall kind, request.saved kind = none) ->
      Kept (lastSaved (history ++ [(request, answer)])) arrays := by
    intro answer nothing kind value found
    rw [lastSaved_concat, nothing, Option.none_or] at found
    exact kept kind value found
  cases request with
  | saveWiFiSetting ssid pwd =>
      rcases allowed with ⟨⟨nonempty, short⟩, shortPwd⟩
      rcases (saveWiFiSetting_returns eeprom held ssid pwd (List.ne_nil_of_length_pos nonempty) short
        shortPwd).run_eq rfl with
        ⟨_, reached, ended, rfl, placed⟩
      refine ⟨(0, []), reached, by rw [Request.perform, ended]; rfl, rfl, _, placed, ?_⟩
      have last : lastSaved (history ++ [(.saveWiFiSetting ssid pwd, 0, [])]) =
          Function.update (Function.update (lastSaved history) .ssid (some ssid.characters)) .password
            (some (pwd.getD Text.empty).characters) := by
        funext kind
        rw [lastSaved_concat]
        cases kind <;> rfl
      rw [last]
      refine (kept.save .ssid (Nat.le_trans ?_ (by decide : 33 ≤ _))).save .password
        (Nat.le_trans ?_ (by decide : 65 ≤ _))
      · rw [ssid.length_stored]
        exact Nat.succ_le_succ short
      · rw [Text.length_stored]
        exact Nat.succ_le_succ (length_getD_le pwd shortPwd)
  | saveDeviceConnectionString deviceString =>
      rcases (saveDeviceConnectionString_returns eeprom held deviceString fun text same =>
        Nat.succ_le_succ (allowed text same)).run_eq rfl with ⟨_, reached, ended, rfl, placed⟩
      refine ⟨(0, []), reached, by rw [Request.perform, ended]; rfl, rfl, _, placed, ?_⟩
      have last : lastSaved (history ++ [(.saveDeviceConnectionString deviceString, 0, [])]) =
          Function.update (lastSaved history) .connection (some (deviceString.getD Text.empty).characters) := by
        funext kind
        rw [lastSaved_concat]
        cases kind <;> rfl
      rw [last]
      refine kept.save .connection (Nat.le_trans ?_ (by decide : 512 ≤ _))
      rw [Text.length_stored]
      exact Nat.succ_le_succ (length_getD_le deviceString allowed)
  | saveX509Cert x509Cert =>
      rcases (saveX509Cert_returns eeprom held x509Cert allowed).run_eq rfl with ⟨_, reached, ended, rfl, placed⟩
      refine ⟨(0, []), reached, by rw [Request.perform, ended]; rfl, rfl, _, placed, ?_⟩
      have last : lastSaved (history ++ [(.saveX509Cert x509Cert, 0, [])]) =
          Function.update (lastSaved history) .certificate (some x509Cert.characters) := by
        funext kind
        rw [lastSaved_concat]
        cases kind <;> rfl
      rw [last]
      refine kept.save .certificate (Nat.le_trans ?_ (by decide : 2640 ≤ _))
      rw [Text.length_stored]
      exact Nat.succ_le_succ allowed
  | readWiFiSetting ssid ssidSize pwd pwdSize =>
      rcases (readWiFiSetting_returns eeprom held kept allowed.1 allowed.2).run_eq rfl with
        ⟨answer, reached, ended, ⟨code, delivered⟩, held⟩
      refine ⟨(answer.1, [answer.2.1, answer.2.2]), reached, by rw [Request.perform, ended]; rfl,
        ⟨code, _, _, rfl, delivered⟩, arrays, held, reading _ fun kind => by cases kind <;> rfl⟩
  | readDeviceConnectionString deviceConnString buffSize =>
      rcases (readDeviceConnectionString_returns eeprom held kept allowed).run_eq rfl with
        ⟨answer, reached, ended, ⟨code, delivered⟩, held⟩
      refine ⟨(answer.1, [answer.2]), reached, by rw [Request.perform, ended]; rfl,
        ⟨code, _, rfl, delivered⟩, arrays, held, reading _ fun kind => by cases kind <;> rfl⟩
  | readX509Cert x509Cert buffSize =>
      rcases (readX509Cert_returns eeprom held kept allowed).run_eq rfl with
        ⟨answer, reached, ended, ⟨code, delivered⟩, held⟩
      refine ⟨(answer.1, [answer.2]), reached, by rw [Request.perform, ended]; rfl,
        ⟨code, _, rfl, delivered⟩, arrays, held, reading _ fun kind => by cases kind <;> rfl⟩

/-- A run of requests from a state that keeps what was saved before it. -/
theorem serve_answered (eeprom : ByteArrays hal holds) (requests : List Request) {history : List Served}
    (held : holds arrays start) (kept : Kept (lastSaved history) arrays) (before : Always Answered history)
    (allowed : forall request, request ∈ requests -> request.Allowed) :
    exists answers final, serve hal requests history start = some (answers, final) ∧
      answers.map Prod.fst = history.map Prod.fst ++ requests ∧ Always Answered answers := by
  induction requests generalizing arrays start history with
  | nil => exact ⟨history, start, rfl, (List.append_nil _).symm, before⟩
  | cons request requests inductionHypothesis =>
      rcases perform_answered eeprom held kept (allowed request List.mem_cons_self) with
        ⟨answer, reached, performed, answered, after, heldAfter, keptAfter⟩
      rcases inductionHypothesis heldAfter keptAfter (always_concat.mpr ⟨before, answered⟩)
        (fun other member => allowed other (List.mem_cons_of_mem _ member)) with ⟨answers, final, rest, same, always⟩
      refine ⟨answers, final, ?_, ?_, always⟩
      · rw [serve, performed, Option.bind_some]
        exact rest
      · rw [same, List.map_append, List.append_assoc]
        rfl

/-- Saves and reads of settings in any order all return 0, and each read leaves
in its buffers the last values saved, cut to the sizes of the buffers. -/
theorem settings_read_back (eeprom : ByteArrays hal holds) (held : holds arrays start) (requests : List Request)
    (allowed : forall request, request ∈ requests -> request.Allowed) :
    exists answers final, serve hal requests [] start = some (answers, final) ∧
      answers.map Prod.fst = requests ∧ Always Answered answers := by
  refine serve_answered eeprom requests held (fun kind value found => ?_) (always_nil _) allowed
  cases found

/-- The chip of the previous module is such an EEPROM, here for a network name
that is saved with no password and read into a short buffer. -/
theorem settings_read_back_chip : exists start answers final,
    run (enableHostSecureChannel (Chip.hal fun _ => false) 1 none) ⟨Chip.blank, []⟩ = some (0, start) ∧
    serve (Chip.hal fun _ => false)
      [.saveWiFiSetting ⟨[65, 66, 67], [], by decide⟩ none, .readWiFiSetting [0, 0] 2 [9] 1] [] start =
        some (answers, final) ∧ Always Answered answers := by
  rcases enabled_represents (Chip.hal_lawful fun _ => false) (fun _ _ _ _ _ => rfl) Chip.blank none
    (by decide +kernel) with ⟨start, enabled, arrays, represents, _⟩
  rcases settings_read_back ((Chip.hal_lawful fun _ => false).byteArrays fun _ _ _ _ _ => rfl) represents
    [.saveWiFiSetting ⟨[65, 66, 67], [], by decide⟩ none, .readWiFiSetting [0, 0] 2 [9] 1] (by
      intro request member
      rcases List.mem_cons.mp member with rfl | other
      · exact ⟨by decide, fun _ impossible => (nomatch impossible)⟩
      · rw [List.mem_singleton.mp other]
        exact ⟨⟨by decide, by decide, by decide⟩, ⟨by decide, by decide, by decide⟩⟩) with
    ⟨answers, final, served, _, always⟩
  exact ⟨start, answers, final, enabled, served, always⟩

end Eeprom
end DevKit
