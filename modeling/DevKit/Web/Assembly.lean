import DevKit.Web.Configuration

namespace DevKit
namespace Web

open Procedure Eeprom

/-!
# What the settings hold after they were read

A form gives a value for a name, or it does not.  The options decide which
values are called for, and `Assembled` says what comes out of them: a joined
connection string that is short enough for its zone, or a connection string
and a certificate as they are in the form.

The reading returns zero exactly when this exists.  Whether it does or not,
the blocks that it allocated are those that the settings point to.
-/

/-! ## What a form calls for -/

/-- The contract of a reader: it stays inside the capacity, and a value that it
delivers is terminated there. -/
def Form.Obeys (form : Form) : Prop :=
  forall index name region capacity, 0 < capacity -> capacity ≤ region.length ->
    exists code value, form.read index (name ++ [0]) (some region) capacity = some (code, some value) ∧
      value.length = region.length ∧ value.drop capacity = region.drop capacity ∧
      (code = 0 -> 0 ∈ value.take capacity)

/-- A call of the reader delivers a value that is not empty. -/
def Form.Gives (form : Form) (index : Nat) (name region : Bytes) (capacity : Nat) (text : Bytes) : Prop :=
  exists value, form.read index (name ++ [0]) (some region) capacity = some (0, some value) ∧
    textOf value = some text ∧ text.length < capacity ∧ text ≠ []

theorem Form.Gives.unique {form : Form} {index capacity : Nat} {name region one two : Bytes}
    (first : form.Gives index name region capacity one) (second : form.Gives index name region capacity two) :
    one = two := by
  rcases first with ⟨value, read, text, _⟩
  rcases second with ⟨value', read', text', _⟩
  rw [read] at read'
  cases read'
  rw [text] at text'
  exact Option.some_inj.mp text'

/-- The value of one provisioning field. -/
abbrev Form.GivesPart (form : Form) (index : Nat) (name text : Bytes) : Prop :=
  form.Gives index name (List.replicate (deviceConnectionMaxLen / 4 + 1) 0) (deviceConnectionMaxLen / 4 + 1) text

/-- `DPSEndpoint=a;ScopeId=b;RegistrationId=c;SymmetricKey=d` -/
def dpsString (a b c d : Bytes) : Bytes :=
  dpsEndpoint ++ [equals] ++ a ++ [semicolon] ++ scopeId ++ [equals] ++ b ++ [semicolon] ++
    registrationId ++ [equals] ++ c ++ [semicolon] ++ symmetricKey ++ [equals] ++ d

/-- The certificate that a form calls for without the provisioning option. -/
def CertificateGiven (options : BitVec 32) (form : Form) (reads : Nat) (certificate : Option Bytes) : Prop :=
  if options &&& webSettingIotCert ≠ 0 then
    exists text, form.Gives reads certificateName (List.replicate (x509MaxLen + 1) 0) (x509MaxLen + 1) text ∧
      certificate = some text
  else certificate = none

/-- The connection string and the certificate that a form calls for. -/
def Assembled (options : BitVec 32) (form : Form) (reads : Nat) (connection certificate : Option Bytes) : Prop :=
  if options &&& webSettingIotDpsSymmetricKey ≠ 0 then
    exists a b c d, form.GivesPart reads dpsEndpoint a ∧ form.GivesPart (reads + 1) scopeId b ∧
      form.GivesPart (reads + 2) registrationId c ∧ form.GivesPart (reads + 3) symmetricKey d ∧
      (dpsString a b c d).length < deviceConnectionMaxLen ∧
      connection = some (dpsString a b c d) ∧ certificate = none
  else if options &&& webSettingIotDeviceConnString ≠ 0 then
    (exists text, form.Gives reads deviceConnectionString (List.replicate (deviceConnectionMaxLen + 1) 0)
      deviceConnectionMaxLen text ∧ connection = some text) ∧ CertificateGiven options form (reads + 1) certificate
  else
    connection = none ∧ CertificateGiven options form reads certificate

/-! ## Strings in buffers -/

theorem appendText_room {region text joined more : Bytes} {capacity : Nat} (known : textOf region = some joined)
    (added : textOf text = some more) (room : capacity ≤ region.length) :
    appendText (some region) capacity (some text) =
      if (joined ++ more).length < capacity then some (0, some (splice region joined.length (more ++ [0])))
      else some (-1, some region) := by
  rcases textOf_eq_some_iff.mp added with ⟨plain, rest, rfl⟩
  rw [appendText, strlen_of_textOf known, strlen_of_textOf added, Option.bind_some, Option.bind_some,
    List.length_append]
  by_cases fits : joined.length + more.length < capacity
  · rw [if_neg (by omega), if_pos fits]
    have whole : 0 + (more.length + 1) ≤ (more ++ 0 :: rest).length := by
      rw [List.length_append, List.length_cons]
      omega
    have copied : slice (more ++ 0 :: rest) 0 (more.length + 1) = more ++ [0] := by
      rw [slice, List.drop_zero, List.take_length_add_append]
      rfl
    rw [fetch_some whole, Option.bind_some]
    dsimp only
    rw [copied, store_some, Option.map_some]
    rw [List.length_append, List.length_singleton]
    omega
  · rw [if_pos (by omega), if_neg fits]

/-- The settings with some text in the buffer of the connection string. -/
def Joins (settings : AzureWebSettings) (joined : Bytes) (current : AzureWebSettings) : Prop :=
  exists region, current = { settings with connectionString.region := some region } ∧
    textOf region = some joined ∧ region.length = deviceConnectionMaxLen + 1

section Rules

variable {board : Board} {form : Form} {options : BitVec 32} {start : Server} {settings current : AzureWebSettings}

theorem appendPart_triple {exited : Leaving (Int × Option AzureWebSettings) -> Server -> Prop}
    {joined text more : Bytes} (joins : Joins settings joined current) (added : textOf text = some more)
    (full : deviceConnectionMaxLen ≤ (joined ++ more).length -> exited (.returned (-1, some current)) start) :
    Triple (fun state => state = start) (appendPart current (some text))
      (fun longer state => (Joins settings (joined ++ more) longer ∧
        (joined ++ more).length < deviceConnectionMaxLen) ∧ state = start) exited := by
  rcases joins with ⟨region, rfl, known, length⟩
  have answer := appendText_room known added (by omega : deviceConnectionMaxLen ≤ region.length)
  by_cases fits : (joined ++ more).length < deviceConnectionMaxLen
  · rw [if_pos fits] at answer
    refine Triple.defined answer (Triple.guard (fun failed => absurd rfl failed) fun _ => Triple.pure ?_)
    rintro state rfl
    refine ⟨⟨⟨_, rfl, textOf_splice_behind known (textOf_eq_some_iff.mp added).1, ?_⟩, fits⟩, rfl⟩
    rw [length_splice, length]
    rw [List.length_append] at fits ⊢
    rw [List.length_singleton]
    omega
  · rw [if_neg fits] at answer
    refine Triple.defined answer (Triple.guard (fun _ state same => ?_) fun fine => ?_)
    · rw [same]
      exact full (Nat.not_lt.mp fits)
    · exact absurd (by decide : (-1 : Int) ≠ 0) fine

/-- One call of a reader that obeys its contract. -/
theorem readField_triple {Value : Type} {exited : Leaving Value -> Server -> Prop} {name region : Bytes}
    {capacity : Nat} (obeys : form.Obeys) (positive : 0 < capacity) (room : capacity ≤ region.length) :
    Triple (fun state => state = start) (form.readField name (some region) capacity)
      (fun answer state => (exists value, form.read start.reads (name ++ [0]) (some region) capacity = some answer ∧
        answer.2 = some value ∧ value.length = region.length ∧ (answer.1 = 0 -> 0 ∈ value.take capacity)) ∧
        state = { start with reads := start.reads + 1 }) exited := by
  rcases obeys start.reads name region capacity positive room with ⟨code, value, answer, length, _, ends⟩
  refine Triple.read ?_
  rintro state rfl
  refine Triple.defined answer (Triple.assign (Triple.pure ?_))
  rintro state rfl
  exact ⟨⟨value, answer, rfl, length, ends⟩, rfl⟩

theorem readRequiredField_triple {Value : Type} {exited : Leaving Value -> Server -> Prop} {name region : Bytes}
    {capacity : Nat} (obeys : form.Obeys) (positive : 0 < capacity) (room : capacity ≤ region.length) :
    Triple (fun state => state = start) (readRequiredField form name (some region) capacity)
      (fun answer state => (exists value, answer.2 = some value ∧ value.length = region.length ∧
        ((answer.1 = 0 ∧ exists text, form.Gives start.reads name region capacity text ∧ textOf value = some text) ∨
          (answer.1 ≠ 0 ∧ forall text, ¬ form.Gives start.reads name region capacity text))) ∧
        state = { start with reads := start.reads + 1 }) exited := by
  refine Triple.bindKnown (readField_triple obeys positive room) ?_
  rintro ⟨code, _⟩ ⟨value, answer, rfl, length, ends⟩
  have stored : capacity - 1 + ([0] : Bytes).length ≤ value.length := by
    rw [List.length_singleton]
    omega
  have kept := (length_splice stored).trans length
  have first : 0 + 1 ≤ (splice value (capacity - 1) [0]).length := by omega
  refine Triple.defined (store_some stored) (Triple.ite (fun failed => Triple.pure ?_) fun fine => ?_)
  · rintro state rfl
    refine ⟨⟨_, rfl, kept, Or.inr ⟨failed, fun text ⟨other, same, _⟩ => ?_⟩⟩, rfl⟩
    rw [answer] at same
    cases same
    exact failed rfl
  · have success : code = 0 := Classical.not_not.mp fine
    rcases textOf_of_mem (ends success) with ⟨text, known, short⟩
    have terminated := textOf_terminate known short (length ▸ room)
    refine Triple.defined (fetch_some first) (Triple.pure ?_)
    rintro state rfl
    refine ⟨⟨_, rfl, kept, ?_⟩, rfl⟩
    rcases textOf_eq_some_iff.mp terminated with ⟨plain, rest, split⟩
    rw [success] at answer
    dsimp only
    cases text with
    | nil =>
        have empty : slice (splice value (capacity - 1) [0]) 0 1 = [0] := by
          rw [split]
          rfl
        rw [if_pos empty]
        refine Or.inr ⟨by decide, fun text ⟨other, same, other_text, _, nonempty⟩ => nonempty ?_⟩
        rw [answer] at same
        cases same
        rw [known] at other_text
        exact (Option.some_inj.mp other_text).symm
    | cons byte text =>
        have nonempty : slice (splice value (capacity - 1) [0]) 0 1 ≠ [0] := by
          rw [split]
          intro zero
          exact plain (List.head_eq_of_cons_eq zero ▸ List.mem_cons_self)
        rw [if_neg nonempty]
        exact Or.inl ⟨rfl, byte :: text, ⟨value, answer, known, short, List.cons_ne_nil _ _⟩, terminated⟩

/-- The separator as a text. -/
def separator : Nat -> Bytes
  | 0 => []
  | _ + 1 => [semicolon]

theorem readDpsPart_triple {exited : Leaving (Int × Option AzureWebSettings) -> Server -> Prop} {joined name : Bytes}
    {index : Nat} (obeys : form.Obeys) (joins : Joins settings joined current) (plain : 0 ∉ name)
    (stopped : forall last text, Joins settings text last ->
      (forall value, form.GivesPart start.reads name value -> deviceConnectionMaxLen ≤
        (joined ++ separator index ++ name ++ [equals] ++ value).length) ->
      exited (.returned (-1, some last)) { start with reads := start.reads + 1 }) :
    Triple (fun state => state = start) (readDpsPart form current (name, index))
      (fun longer state => (exists value, form.GivesPart start.reads name value ∧
        Joins settings (joined ++ separator index ++ name ++ [equals] ++ value) longer ∧
        (joined ++ separator index ++ name ++ [equals] ++ value).length < deviceConnectionMaxLen) ∧
        state = { start with reads := start.reads + 1 }) exited := by
  refine Triple.bindKnown (readRequiredField_triple obeys (by decide) (Nat.le_of_eq List.length_replicate.symm)) ?_
  rintro answer ⟨value, shown, length, outcome⟩
  refine Triple.guard (fun failed state same => ?_) fun fine => ?_
  · rcases outcome with ⟨success, _⟩ | ⟨_, missing⟩
    · exact absurd success failed
    · rw [same]
      exact stopped current joined joins fun value gives => absurd gives (missing value)
  rcases outcome with ⟨_, text, gives, known⟩ | ⟨failed, _⟩
  swap
  · exact absurd failed fine
  have full {front : Bytes} {last : AzureWebSettings} {shorter : Bytes} (held : Joins settings shorter last)
      (part : front <+: joined ++ separator index ++ name ++ [equals] ++ text)
      (much : deviceConnectionMaxLen ≤ front.length) :
      exited (.returned (-1, some last)) { start with reads := start.reads + 1 } := by
    refine stopped last shorter held fun value other => ?_
    rw [← gives.unique other]
    exact Nat.le_trans much part.length_le
  have separated : Triple (fun state => state = { start with reads := start.reads + 1 })
      (appendSeparator current index)
      (fun longer state => Joins settings (joined ++ separator index) longer ∧
        state = { start with reads := start.reads + 1 }) exited := by
    cases index with
    | zero =>
        refine Triple.pure fun state same => ⟨?_, same⟩
        rw [separator, List.append_nil]
        exact joins
    | succ index =>
        refine (appendPart_triple joins (by rfl : textOf [semicolon, 0] = some [semicolon])
          fun much => full joins ?_ much).weaken (fun _ same => same) (fun _ _ ended => ⟨ended.1.1, ended.2⟩)
          fun _ _ ended => ended
        simp only [separator, List.append_assoc]
        exact (List.prefix_append_right_inj _).mpr (List.prefix_append _ _)
  refine Triple.bindKnown separated fun withSeparator joins => ?_
  have nameText : textOf (name ++ [0]) = some name := Text.textOf_region ⟨name, [], plain⟩
  refine Triple.bindKnown (appendPart_triple joins nameText fun much => full joins ?_ much) fun withName joins => ?_
  · rw [List.append_assoc _ [equals]]
    exact List.prefix_append _ _
  refine Triple.bindKnown (appendPart_triple joins.1 (by rfl : textOf [equals, 0] = some [equals])
    fun much => full joins.1 ?_ much) fun withSign joins => ?_
  · exact List.prefix_append _ _
  rw [shown]
  refine (appendPart_triple joins.1 known fun much => full joins.1 ?_ much).weaken (fun _ same => same)
    (fun longer state ended => ⟨⟨text, gives, ended.1⟩, ended.2⟩) fun _ _ ended => ended
  exact List.prefix_rfl

theorem calloc_triple {Exit : Type} {size : Nat} {exited : Exit -> Server -> Prop} :
    Triple (fun state => state = start) (calloc board size)
      (fun allocation state =>
        if board.grants start.heap.calls = true then
          allocation = ⟨start.heap.calls, some (List.replicate size 0)⟩ ∧
            state = { start with heap := ⟨start.heap.calls + 1, start.heap.calls :: start.heap.live⟩ }
        else
          allocation = .null ∧ state = { start with heap := ⟨start.heap.calls + 1, start.heap.live⟩ }) exited := by
  refine Triple.read ?_
  rintro server rfl
  refine Triple.ite (fun granted => Triple.assign (Triple.pure ?_)) fun denied => Triple.assign (Triple.pure ?_)
  · rintro state rfl
    rw [if_pos granted]
    exact ⟨rfl, rfl⟩
  · rintro state rfl
    rw [if_neg denied]
    exact ⟨rfl, rfl⟩

end Rules

/-! ## The whole reading -/

/-- The blocks that the settings own, the last one first. -/
def AzureWebSettings.blocks (settings : AzureWebSettings) : List Nat :=
  settings.certificate.blocks ++ settings.connectionString.blocks ++ [settings.block]

/-- The blocks behind the pointer `settings`. -/
def settingsBlocks : Option AzureWebSettings -> List Nat
  | none => []
  | some settings => settings.blocks

/-- A buffer holds a text, or there is neither. -/
def Allocation.Holds (allocation : Allocation) (text : Option Bytes) : Prop :=
  match text with
  | none => allocation.region = none
  | some text => exists region, allocation.region = some region ∧ textOf region = some text

/-- What the settings hold. -/
def Stored (settings : Option AzureWebSettings) (connection certificate : Option Bytes) : Prop :=
  match settings with
  | none => connection = none ∧ certificate = none
  | some settings => settings.connectionString.Holds connection ∧ settings.certificate.Holds certificate

/-- A server that has done nothing but allocate blocks and read fields. -/
def Owning (start : Server) (blocks : List Nat) (final : Server) : Prop :=
  exists calls reads, final = { start with heap := ⟨calls, blocks ++ start.heap.live⟩, reads := reads }

/-- A server owns one more block after an allocation. -/
theorem Owning.add {start final : Server} {blocks : List Nat} (owning : Owning start blocks final) (reads : Nat) :
    Owning start (final.heap.calls :: blocks)
      { final with heap := ⟨final.heap.calls + 1, final.heap.calls :: final.heap.live⟩, reads := reads } := by
  rcases owning with ⟨calls, _, rfl⟩
  exact ⟨_, _, rfl⟩

/-- The number of reads and of allocations does not matter. -/
theorem Owning.advance {start final : Server} {blocks : List Nat} (owning : Owning start blocks final)
    (calls reads : Nat) : Owning start blocks { final with heap.calls := calls, reads := reads } := by
  rcases owning with ⟨_, _, rfl⟩
  exact ⟨_, _, rfl⟩

theorem Owning.nothing (start : Server) : Owning start [] start :=
  ⟨_, _, rfl⟩

/-- The outcome of a reading. -/
structure Reading (board : Board) (options : BitVec 32) (form : Form) (start : Server)
    (answer : Int × Option AzureWebSettings) (final : Server) : Prop where
  owning : Owning start (settingsBlocks answer.2) final
  complete : answer.1 = 0 -> exists connection certificate,
    Assembled options form start.reads connection certificate ∧ Stored answer.2 connection certificate
  refused : answer.1 ≠ 0 -> (forall number, board.grants number = true) ->
    forall connection certificate, ¬ Assembled options form start.reads connection certificate

section Whole

variable {board : Board} {form : Form} {options : BitVec 32} {start : Server}

theorem wantsString_iff :
    options &&& (webSettingIotDeviceConnString ||| webSettingIotDpsSymmetricKey) ≠ 0 <->
      options &&& webSettingIotDeviceConnString ≠ 0 ∨ options &&& webSettingIotDpsSymmetricKey ≠ 0 := by
  rw [BitVec.and_or_distrib_left, ne_eq, ne_eq, ne_eq, ← Classical.not_and_iff_not_or_not]
  exact not_congr BitVec.or_eq_zero_iff

theorem getConfigurationBodySize_eq_zero_iff :
    getConfigurationBodySize options = 0 <-> ¬ options &&& webSettingIotDpsSymmetricKey ≠ 0 ∧
      ¬ options &&& webSettingIotDeviceConnString ≠ 0 ∧ ¬ options &&& webSettingIotCert ≠ 0 := by
  have positive : deviceConnectionMaxLen ≠ 0 := by decide
  have positiveCertificate : x509MaxLen ≠ 0 := by decide
  rw [getConfigurationBodySize]
  split
  next dps => exact ⟨fun zero => absurd zero positive, fun none => absurd dps none.1⟩
  next dps =>
    rw [Nat.add_eq_zero_iff, ite_eq_right_iff, ite_eq_right_iff]
    refine ⟨fun ⟨connection, certificate⟩ => ⟨dps, fun some => positive (connection some),
      fun some => positiveCertificate (certificate some)⟩, fun none => ⟨fun some => absurd some none.2.1,
      fun some => absurd some none.2.2⟩⟩

/-- The settings after their allocations. -/
def emptySettings (options : BitVec 32) (start : Server) : AzureWebSettings where
  block := start.heap.calls
  connectionString :=
    if options &&& (webSettingIotDeviceConnString ||| webSettingIotDpsSymmetricKey) ≠ 0 then
      ⟨start.heap.calls + 1, some (List.replicate (deviceConnectionMaxLen + 1) 0)⟩
    else .null
  certificate := .null

/-- The server after allocations that were all granted. -/
def holding (start : Server) (blocks : List Nat) (reads : Nat) : Server :=
  { start with heap := ⟨start.heap.calls + blocks.length, blocks ++ start.heap.live⟩, reads := reads }

/-- A reading that stops owns what it has allocated. -/
theorem Reading.stopped {settings : Option AzureWebSettings} {final : Server}
    (owning : Owning start (settingsBlocks settings) final)
    (refused : (forall number, board.grants number = true) -> forall connection certificate,
      ¬ Assembled options form start.reads connection certificate) :
    Reading board options form start (-1, settings) final where
  owning := owning
  complete success := absurd success (by decide : (-1 : Int) ≠ 0)
  refused _ := refused

theorem allocateSettings_triple :
    Triple (fun state => state = start) (allocateSettings board options)
      (fun settings state => settings = emptySettings options start ∧
        state = holding start (emptySettings options start).blocks start.reads)
      (Leaving.Meets (Reading board options form start) fun _ => False) := by
  refine calloc_triple.bind fun values => Triple.fix fun server outcome => ?_
  by_cases granted : board.grants start.heap.calls = true
  swap
  · rw [if_neg granted] at outcome
    rcases outcome with ⟨rfl, rfl⟩
    refine Triple.guard (fun _ state same => ?_) fun present => absurd rfl present
    rw [same]
    refine Reading.stopped ((Owning.nothing start).advance _ _) ?_
    exact fun all => absurd (all _) granted
  rw [if_pos granted] at outcome
  rcases outcome with ⟨rfl, rfl⟩
  refine Triple.guard (fun missing => (nomatch missing)) fun _ => ?_
  refine Triple.ite (fun wanted => ?_) fun unwanted => Triple.pure ?_
  swap
  · rintro state rfl
    rw [emptySettings, if_neg unwanted]
    exact ⟨rfl, rfl⟩
  refine calloc_triple.bind fun connectionString => Triple.fix fun server outcome => ?_
  dsimp only at outcome
  by_cases more : board.grants (start.heap.calls + 1) = true
  · rw [if_pos more] at outcome
    rcases outcome with ⟨rfl, rfl⟩
    refine Triple.guard (fun missing => (nomatch missing)) fun _ => Triple.pure ?_
    rintro state rfl
    rw [emptySettings, if_pos wanted]
    exact ⟨rfl, rfl⟩
  · rw [if_neg more] at outcome
    rcases outcome with ⟨rfl, rfl⟩
    refine Triple.guard (fun _ state same => ?_) fun present => absurd rfl present
    rw [same]
    refine Reading.stopped (((Owning.nothing start).add start.reads).advance _ _) ?_
    exact fun all => absurd (all _) more

theorem Joins.blocks {settings last : AzureWebSettings} {joined : Bytes} (joins : Joins settings joined last)
    (present : settings.connectionString.region ≠ none) : last.blocks = settings.blocks := by
  rcases joins with ⟨region, rfl, _⟩
  simp only [AzureWebSettings.blocks, Allocation.blocks, if_neg present, reduceCtorEq, if_false]

theorem textOf_zeros (size : Nat) : textOf (List.replicate (size + 1) 0) = some [] :=
  textOf_eq_some_iff.mpr ⟨List.not_mem_nil, List.replicate size 0, rfl⟩

/-- The blocks of the empty settings belong to nobody else. -/
theorem emptySettings_owning (options : BitVec 32) (start : Server) (reads : Nat) :
    Owning start (emptySettings options start).blocks (holding start (emptySettings options start).blocks reads) := by
  have one := (Owning.nothing start).add reads
  rw [emptySettings]
  split
  next => exact one.add reads
  next => exact one

/-- The provisioning branch. -/
theorem readDps_triple (obeys : form.Obeys) (dps : options &&& webSettingIotDpsSymmetricKey ≠ 0) :
    Triple (fun state => state = holding start (emptySettings options start).blocks start.reads)
      ([(dpsEndpoint, 0), (scopeId, 1), (registrationId, 2), (symmetricKey, 3)].foldlM (readDpsPart form)
        (emptySettings options start))
      (fun settings state => (exists a b c d, form.GivesPart start.reads dpsEndpoint a ∧
        form.GivesPart (start.reads + 1) scopeId b ∧ form.GivesPart (start.reads + 2) registrationId c ∧
        form.GivesPart (start.reads + 3) symmetricKey d ∧
        Joins (emptySettings options start) (dpsString a b c d) settings ∧
        (dpsString a b c d).length < deviceConnectionMaxLen) ∧
        state = holding start (emptySettings options start).blocks (start.reads + 4))
      (Leaving.Meets (Reading board options form start) fun _ => False) := by
  have wanted := wantsString_iff.mpr (Or.inr dps)
  have present : (emptySettings options start).connectionString.region ≠ none := by
    rw [emptySettings, if_pos wanted]
    exact Option.some_ne_none _
  have joins : Joins (emptySettings options start) [] (emptySettings options start) := by
    refine ⟨List.replicate (deviceConnectionMaxLen + 1) 0, ?_, textOf_zeros _, List.length_replicate⟩
    rw [emptySettings, if_pos wanted]
  -- A part that is missing, or does not fit, leaves nothing that the form could call for.
  have stopped {last : AzureWebSettings} {text : Bytes} {reads : Nat}
      (held : Joins (emptySettings options start) text last)
      (refused : forall a b c d, form.GivesPart start.reads dpsEndpoint a -> form.GivesPart (start.reads + 1) scopeId b ->
        form.GivesPart (start.reads + 2) registrationId c -> form.GivesPart (start.reads + 3) symmetricKey d ->
        ¬ (dpsString a b c d).length < deviceConnectionMaxLen) :
      Reading board options form start (-1, some last) (holding start (emptySettings options start).blocks reads) := by
    refine Reading.stopped ?_ fun _ connection certificate assembled => ?_
    · rw [settingsBlocks, held.blocks present]
      exact emptySettings_owning options start reads
    · rw [Assembled, if_pos dps] at assembled
      rcases assembled with ⟨a, b, c, d, first, second, third, fourth, short, _⟩
      exact refused a b c d first second third fourth short
  simp only [List.foldlM_cons, List.foldlM_nil]
  refine Triple.bindKnown (readDpsPart_triple obeys joins (by decide) fun last text held long => ?_) ?_
  · refine stopped held fun a b c d first _ _ _ => ?_
    have much := long a first
    simp only [separator, dpsString, List.length_append, List.length_nil] at much ⊢
    omega
  rintro settings ⟨a, first, joins, _⟩
  refine Triple.bindKnown (readDpsPart_triple obeys joins (by decide) fun last text held long => ?_) ?_
  · refine stopped held fun a' b c d first' second _ _ => ?_
    cases first.unique first'
    have much := long b second
    simp only [separator, dpsString, List.length_append, List.length_nil] at much ⊢
    omega
  rintro settings ⟨b, second, joins, _⟩
  refine Triple.bindKnown (readDpsPart_triple obeys joins (by decide) fun last text held long => ?_) ?_
  · refine stopped held fun a' b' c d first' second' third _ => ?_
    cases first.unique first'
    cases second.unique second'
    have much := long c third
    simp only [separator, dpsString, List.length_append, List.length_nil] at much ⊢
    omega
  rintro settings ⟨c, third, joins, _⟩
  refine Triple.bindKnown (readDpsPart_triple obeys joins (by decide) fun last text held long => ?_) ?_
  · refine stopped held fun a' b' c' d first' second' third' fourth => ?_
    cases first.unique first'
    cases second.unique second'
    cases third.unique third'
    have much := long d fourth
    simp only [separator, dpsString, List.length_append, List.length_nil] at much ⊢
    omega
  rintro settings ⟨d, fourth, joins, short⟩
  refine Triple.pure ?_
  rintro state rfl
  exact ⟨⟨a, b, c, d, first, second, third, fourth, joins, short⟩, rfl⟩

/-- The connection string without the provisioning option. -/
def Connected (options : BitVec 32) (form : Form) (start : Server) (connection : Option Bytes)
    (settings : AzureWebSettings) (reads : Nat) : Prop :=
  settings.block = start.heap.calls ∧ settings.certificate = .null ∧
    settings.blocks = (emptySettings options start).blocks ∧ settings.connectionString.Holds connection ∧
    if options &&& webSettingIotDeviceConnString ≠ 0 then
      reads = start.reads + 1 ∧ exists text, form.Gives start.reads deviceConnectionString
        (List.replicate (deviceConnectionMaxLen + 1) 0) deviceConnectionMaxLen text ∧ connection = some text
    else reads = start.reads ∧ connection = none

theorem readDeviceString_triple (obeys : form.Obeys) (direct : ¬ options &&& webSettingIotDpsSymmetricKey ≠ 0) :
    Triple (fun state => state = holding start (emptySettings options start).blocks start.reads)
      (readDeviceString form (emptySettings options start))
      (fun settings state => exists connection reads, Connected options form start connection settings reads ∧
        state = holding start (emptySettings options start).blocks reads)
      (Leaving.Meets (Reading board options form start) fun _ => False) := by
  by_cases wanted : options &&& webSettingIotDeviceConnString ≠ 0
  swap
  · have absent : (emptySettings options start).connectionString = .null := by
      rw [emptySettings, if_neg fun some => (wantsString_iff.mp some).elim wanted direct]
    refine Triple.ite (fun present => absurd (congrArg Allocation.region absent) present) fun _ => Triple.pure ?_
    rintro state rfl
    refine ⟨none, start.reads, ⟨rfl, rfl, rfl, congrArg Allocation.region absent, ?_⟩, rfl⟩
    rw [if_neg wanted]
    exact ⟨rfl, rfl⟩
  have region : (emptySettings options start).connectionString =
      ⟨start.heap.calls + 1, some (List.replicate (deviceConnectionMaxLen + 1) 0)⟩ := by
    rw [emptySettings, if_pos (wantsString_iff.mpr (Or.inl wanted))]
  have present : (emptySettings options start).connectionString.region ≠ none := by
    rw [region]
    exact Option.some_ne_none _
  have blocks (value : Bytes) : AzureWebSettings.blocks ⟨start.heap.calls, ⟨start.heap.calls + 1, some value⟩, .null⟩ =
      (emptySettings options start).blocks := by
    simp only [AzureWebSettings.blocks, Allocation.blocks, region, reduceCtorEq, if_false]
    rfl
  refine Triple.ite (fun _ => ?_) fun absent => absurd present absent
  rw [region]
  refine Triple.bindKnown (readRequiredField_triple obeys (by decide) ?_) ?_
  · rw [List.length_replicate]
    exact Nat.le_succ _
  rintro ⟨code, pointer⟩ ⟨value, shown, length, outcome⟩
  dsimp only at shown outcome
  subst shown
  refine Triple.guard (fun failed state same => ?_) fun fine => Triple.pure ?_
  · rw [same]
    rcases outcome with ⟨success, _⟩ | ⟨_, missing⟩
    · exact absurd success failed
    refine Reading.stopped ?_ fun _ connection certificate assembled => ?_
    · change Owning start (AzureWebSettings.blocks ⟨start.heap.calls, ⟨start.heap.calls + 1, some value⟩, .null⟩) _
      rw [blocks]
      exact emptySettings_owning options start _
    · rw [Assembled, if_neg direct, if_pos wanted] at assembled
      rcases assembled with ⟨⟨text, gives, _⟩, _⟩
      exact missing text gives
  · rintro state rfl
    rcases outcome with ⟨_, text, gives, known⟩ | ⟨failed, _⟩
    · refine ⟨some text, start.reads + 1, ⟨rfl, rfl, blocks value, ⟨value, rfl, known⟩, ?_⟩, rfl⟩
      rw [if_pos wanted]
      exact ⟨rfl, text, gives, rfl⟩
    · exact absurd failed fine

theorem Connected.assembled {connection certificate : Option Bytes} {settings : AzureWebSettings} {reads : Nat}
    (connected : Connected options form start connection settings reads)
    (direct : ¬ options &&& webSettingIotDpsSymmetricKey ≠ 0)
    (given : CertificateGiven options form reads certificate) :
    Assembled options form start.reads connection certificate := by
  rcases connected with ⟨_, _, _, _, read⟩
  rw [Assembled, if_neg direct]
  split at read <;> rcases read with ⟨rfl, read⟩
  next wanted =>
    rw [if_pos wanted]
    exact ⟨read, given⟩
  next unwanted =>
    rw [if_neg unwanted]
    exact ⟨read, given⟩

theorem Connected.given {connection other certificate : Option Bytes} {settings : AzureWebSettings} {reads : Nat}
    (connected : Connected options form start connection settings reads)
    (direct : ¬ options &&& webSettingIotDpsSymmetricKey ≠ 0)
    (assembled : Assembled options form start.reads other certificate) :
    CertificateGiven options form reads certificate := by
  rcases connected with ⟨_, _, _, _, read⟩
  rw [Assembled, if_neg direct] at assembled
  split at read <;> rcases read with ⟨rfl, read⟩
  next wanted =>
    rw [if_pos wanted] at assembled
    exact assembled.2
  next unwanted =>
    rw [if_neg unwanted] at assembled
    exact assembled.2

theorem readCertificate_triple (obeys : form.Obeys) (direct : ¬ options &&& webSettingIotDpsSymmetricKey ≠ 0)
    {connection : Option Bytes} {settings : AzureWebSettings} {reads : Nat}
    (connected : Connected options form start connection settings reads) :
    Triple (fun state => state = holding start (emptySettings options start).blocks reads)
      (readCertificate board form options settings)
      (fun settings state => Reading board options form start (0, some settings) state)
      (Leaving.Meets (Reading board options form start) fun _ => False) := by
  have ⟨_, null, blocks, holds, _⟩ := connected
  have owned := emptySettings_owning options start reads
  have success (settings : AzureWebSettings) (state : Server) (certificate : Option Bytes)
      (owning : Owning start settings.blocks state) (given : CertificateGiven options form reads certificate)
      (first : settings.connectionString.Holds connection) (second : settings.certificate.Holds certificate) :
      Reading board options form start (0, some settings) state :=
    ⟨owning, fun _ => ⟨connection, certificate, connected.assembled direct given, first, second⟩,
      fun failed => absurd rfl failed⟩
  refine Triple.ite (fun wanted => ?_) fun unwanted => Triple.pure ?_
  swap
  · rintro state rfl
    refine success settings _ none (blocks ▸ owned) ?_ holds ?_
    · rw [CertificateGiven, if_neg unwanted]
    · rw [null]
      rfl
  have refusing {last : Option AzureWebSettings} {state : Server} (owning : Owning start (settingsBlocks last) state)
      (cause : (forall number, board.grants number = true) -> forall text, ¬ form.Gives reads certificateName
        (List.replicate (x509MaxLen + 1) 0) (x509MaxLen + 1) text) :
      Reading board options form start (-1, last) state := by
    refine Reading.stopped owning fun all other certificate assembled => ?_
    have given := connected.given direct assembled
    rw [CertificateGiven, if_pos wanted] at given
    rcases given with ⟨text, gives, _⟩
    exact cause all text gives
  generalize known : holding start (emptySettings options start).blocks reads = held at owned
  have count : held.reads = reads := by
    rw [← known]
    rfl
  refine calloc_triple.bind fun certificate => Triple.fix fun server outcome => ?_
  by_cases granted : board.grants held.heap.calls = true
  swap
  · rw [if_neg granted] at outcome
    rcases outcome with ⟨rfl, rfl⟩
    refine Triple.guard (fun _ state same => ?_) fun present => absurd rfl present
    rw [same]
    refine refusing ?_ fun all => absurd (all _) granted
    rw [settingsBlocks, blocks]
    exact owned.advance _ _
  rw [if_pos granted] at outcome
  rcases outcome with ⟨rfl, rfl⟩
  refine Triple.guard (fun missing => (nomatch missing)) fun _ => ?_
  refine Triple.bindKnown (readRequiredField_triple obeys (Nat.succ_pos _) (Nat.le_of_eq List.length_replicate.symm)) ?_
  rintro ⟨code, pointer⟩ ⟨value, shown, length, outcome⟩
  dsimp only at shown outcome
  subst shown
  rw [count] at outcome
  have more : Owning start (AzureWebSettings.blocks { settings with certificate := ⟨held.heap.calls, some value⟩ })
      { held with
        heap := ⟨held.heap.calls + 1, held.heap.calls :: held.heap.live⟩
        reads := held.reads + 1 } := by
    have added := owned.add (held.reads + 1)
    rw [← blocks, AzureWebSettings.blocks, null] at added
    exact added
  refine Triple.guard (fun failed state same => ?_) fun fine => Triple.pure ?_
  · rw [same]
    rcases outcome with ⟨success, _⟩ | ⟨_, missing⟩
    · exact absurd success failed
    · exact refusing more fun _ => missing
  · rintro state rfl
    rcases outcome with ⟨_, text, gives, known⟩ | ⟨failed, _⟩
    · refine success _ _ (some text) more ?_ holds ⟨value, rfl, known⟩
      rw [CertificateGiven, if_pos wanted]
      exact ⟨text, gives, rfl⟩
    · exact absurd failed fine

/-- A form that has to be read gives what it calls for, or the reading is
refused; the blocks allocated on the way are those of the settings. -/
theorem readConfigurationSettings_returns (obeys : form.Obeys) :
    Returns (fun state => state = start) (readConfigurationSettings board options (some form))
      (Reading board options form start) := by
  refine Triple.guard (fun empty state same => ?_) fun _ => ?_
  · rw [same]
    rcases getConfigurationBodySize_eq_zero_iff.mp empty with ⟨direct, noString, noCertificate⟩
    refine ⟨Owning.nothing start, fun _ => ⟨none, none, ?_, rfl, rfl⟩, fun failed => absurd rfl failed⟩
    rw [Assembled, if_neg direct, if_neg noString, CertificateGiven, if_neg noCertificate]
    exact ⟨rfl, rfl⟩
  refine Triple.bindKnown allocateSettings_triple ?_
  rintro _ rfl
  refine Triple.ite (fun dps => ?_) fun direct => ?_
  · refine Triple.bindKnown (readDps_triple obeys dps) ?_
    rintro settings ⟨a, b, c, d, first, second, third, fourth, joins, short⟩
    refine Triple.pure ?_
    rintro state rfl
    refine ⟨?_, fun _ => ⟨some (dpsString a b c d), none, ?_, ?_⟩, fun failed => absurd rfl failed⟩
    · have present : (emptySettings options start).connectionString.region ≠ none := by
        rw [emptySettings, if_pos (wantsString_iff.mpr (Or.inr dps))]
        exact Option.some_ne_none _
      rw [settingsBlocks, joins.blocks present]
      exact emptySettings_owning options start _
    · rw [Assembled, if_pos dps]
      exact ⟨a, b, c, d, first, second, third, fourth, short, rfl, rfl⟩
    · rcases joins with ⟨region, rfl, known, _⟩
      exact ⟨⟨region, rfl, known⟩, rfl⟩
  · refine (readDeviceString_triple obeys direct).bind fun settings => Triple.fix fun server connected => ?_
    rcases connected with ⟨connection, reads, connected, rfl⟩
    refine (readCertificate_triple obeys direct connected).bind fun settings => Triple.pure ?_
    exact fun _ reading => reading

/-! ## What the storage accepts -/

theorem Assembled.connection_short {connection : Bytes} {certificate : Option Bytes} {reads : Nat}
    (assembled : Assembled options form reads (some connection) certificate) :
    connection.length < deviceConnectionMaxLen := by
  rw [Assembled] at assembled
  split at assembled
  next =>
    rcases assembled with ⟨a, b, c, d, _, _, _, _, short, same, _⟩
    cases same
    exact short
  next =>
    split at assembled
    next =>
      rcases assembled with ⟨⟨text, ⟨_, _, _, short, _⟩, same⟩, _⟩
      cases same
      exact short
    next => cases assembled.1

theorem Assembled.certificate_short {connection : Option Bytes} {certificate : Bytes} {reads : Nat}
    (assembled : Assembled options form reads connection (some certificate)) :
    certificate.length ≤ x509MaxLen := by
  have given : exists count, CertificateGiven options form count (some certificate) := by
    rw [Assembled] at assembled
    split at assembled
    next =>
      rcases assembled with ⟨a, b, c, d, _, _, _, _, _, _, impossible⟩
      cases impossible
    next =>
      split at assembled
      next => exact ⟨_, assembled.2⟩
      next => exact ⟨_, assembled.2⟩
  rcases given with ⟨count, given⟩
  rw [CertificateGiven] at given
  split at given
  next =>
    rcases given with ⟨text, ⟨_, _, _, short, _⟩, same⟩
    cases same
    exact Nat.le_of_lt_succ short
  next => cases given

/-- A string that is short enough goes on to be written. -/
theorem saveDeviceConnectionString_accepts {World : Type} (hal : Hal World) {region text : Bytes}
    (known : textOf region = some text) (short : text.length < deviceConnectionMaxLen) :
    saveDeviceConnectionString hal (some region) =
      call (writeWithVerify hal (some region) (text.length + 1) deviceConnectionZone) := by
  have present : (some region : Pointer) ≠ none := Option.some_ne_none _
  have kept : reject (text.length + 1 > deviceConnectionMaxLen) (.returned (-1)) =
      (pure () : Procedure (Device World) (Leaving Int) Unit) := if_neg (by omega)
  rw [saveDeviceConnectionString, strlen_of_textOf known, if_neg present]
  change (reject (text.length + 1 > deviceConnectionMaxLen) (.returned (-1)) >>= fun _ =>
    if (some region : Pointer) = none then call (writeWithVerify hal (some [0]) 1 deviceConnectionZone)
    else call (writeWithVerify hal (some region) (text.length + 1) deviceConnectionZone)) = _
  rw [kept, if_neg present]
  rfl

theorem saveX509Cert_accepts {World : Type} (hal : Hal World) {region text : Bytes}
    (known : textOf region = some text) (short : text.length ≤ x509MaxLen) :
    saveX509Cert hal (some region) = (do
      let written <- saveX509Piece hal (some region) (text.length + 1) 0 0
      let written <- saveX509Piece hal (some region) (text.length + 1) written 7
      let _ <- saveX509Piece hal (some region) (text.length + 1) written 8
      pure 0) := by
  have present : reject ((some region : Pointer) = none) (.returned (-1)) =
      (pure () : Procedure (Device World) (Leaving Int) Unit) := if_neg (Option.some_ne_none _)
  have kept : reject (text.length > x509MaxLen) (.returned (-1)) =
      (pure () : Procedure (Device World) (Leaving Int) Unit) := if_neg (by omega)
  rw [saveX509Cert, strlen_of_textOf known, present]
  change (reject (text.length > x509MaxLen) (.returned (-1)) >>= fun _ => (do
    let written <- saveX509Piece hal (some region) (text.length + 1) 0 0
    let written <- saveX509Piece hal (some region) (text.length + 1) written 7
    let _ <- saveX509Piece hal (some region) (text.length + 1) written 8
    pure 0 : Procedure (Device World) (Leaving Int) Int)) = _
  rw [kept]
  rfl

/-- Neither value is refused by the storage for its length. -/
def Accepted (settings : Option AzureWebSettings) (connection certificate : Option Bytes) : Prop :=
  forall values, settings = some values -> forall (World : Type) (hal : Hal World),
    (forall text, connection = some text -> saveDeviceConnectionString hal values.connectionString.region =
      call (writeWithVerify hal values.connectionString.region (text.length + 1) deviceConnectionZone)) ∧
    (forall text, certificate = some text -> saveX509Cert hal values.certificate.region = (do
      let written <- saveX509Piece hal values.certificate.region (text.length + 1) 0 0
      let written <- saveX509Piece hal values.certificate.region (text.length + 1) written 7
      let _ <- saveX509Piece hal values.certificate.region (text.length + 1) written 8
      pure 0))

theorem Stored.accepted {settings : Option AzureWebSettings} {connection certificate : Option Bytes} {reads : Nat}
    (stored : Stored settings connection certificate)
    (assembled : Assembled options form reads connection certificate) :
    Accepted settings connection certificate := by
  rintro values rfl World hal
  rcases stored with ⟨first, second⟩
  constructor
  · rintro text rfl
    rcases first with ⟨region, shown, known⟩
    rw [shown]
    exact saveDeviceConnectionString_accepts hal known assembled.connection_short
  · rintro text rfl
    rcases second with ⟨region, shown, known⟩
    rw [shown]
    exact saveX509Cert_accepts hal known assembled.certificate_short

end Whole

/-- With a reader that obeys its contract and all allocations granted, the
reading stays inside its buffers.  It returns zero exactly when the form gives
what the options call for, and then the settings hold this and the storage
does not refuse it. -/
theorem readConfigurationSettings_assembles (board : Board) (granted : forall number, board.grants number = true)
    (options : BitVec 32) (form : Form) (obeys : form.Obeys) (start : Server) :
    exists code settings final,
      run (readConfigurationSettings board options (some form)) start = some ((code, settings), final) ∧
      (code = 0 <-> exists connection certificate, Assembled options form start.reads connection certificate) ∧
      (code = 0 -> exists connection certificate, Assembled options form start.reads connection certificate ∧
        Stored settings connection certificate ∧ Accepted settings connection certificate) := by
  rcases (readConfigurationSettings_returns obeys).run_eq rfl with ⟨⟨code, settings⟩, final, ended, reading⟩
  refine ⟨code, settings, final, ended, ⟨fun success => ?_, fun ⟨connection, certificate, assembled⟩ => ?_⟩,
    fun success => ?_⟩
  · rcases reading.complete success with ⟨connection, certificate, assembled, _⟩
    exact ⟨connection, certificate, assembled⟩
  · by_contra failed
    exact reading.refused failed granted connection certificate assembled
  · rcases reading.complete success with ⟨connection, certificate, assembled, stored⟩
    exact ⟨connection, certificate, assembled, stored, stored.accepted assembled⟩

/-- A form in which every field has the value `x`. -/
def formX : Form where
  read _ _ value capacity :=
    if capacity < 2 then some (-1, value) else (store value 0 [120, 0]).map fun value => (0, value)

theorem formX_read {region : Bytes} {capacity : Nat} (large : 2 ≤ capacity) (room : capacity ≤ region.length)
    (index : Nat) (name : Bytes) :
    formX.read index name (some region) capacity = some (0, some (splice region 0 [120, 0])) := by
  have within : 0 + ([120, 0] : Bytes).length ≤ region.length := by
    change 0 + 2 ≤ _
    omega
  change (if capacity < 2 then _ else _) = _
  rw [if_neg (Nat.not_lt.mpr large), store_some within]
  rfl

theorem formX_obeys : formX.Obeys := by
  intro index name region capacity positive room
  by_cases small : capacity < 2
  · exact ⟨-1, region, if_pos small, rfl, rfl, fun impossible => absurd impossible (by decide)⟩
  obtain ⟨more, rfl⟩ : exists more, capacity = 0 + ([120, 0] : Bytes).length + more := ⟨capacity - 2, by simp; omega⟩
  have within : 0 + ([120, 0] : Bytes).length ≤ region.length := Nat.le_trans (Nat.le_add_right _ _) room
  refine ⟨0, _, formX_read (Nat.not_lt.mp small) room _ _, length_splice within, drop_splice within more, fun _ => ?_⟩
  rw [splice_zero, List.take_append]
  refine List.mem_append_left _ ?_
  rw [Nat.zero_add, List.take_of_length_le (Nat.le_add_right _ _)]
  decide

theorem readConfigurationSettings_assembles_dps : exists code settings final,
    run (readConfigurationSettings ⟨fun _ => true, fun _ => 0⟩ 4 (some formX))
      ⟨⟨⟨false, false, 0, 0, []⟩, 0, 0⟩, ⟨0, []⟩, 0, []⟩ = some ((code, settings), final) ∧ code = 0 := by
  rcases readConfigurationSettings_assembles ⟨fun _ => true, fun _ => 0⟩ (fun _ => rfl) 4 formX formX_obeys
    ⟨⟨⟨false, false, 0, 0, []⟩, 0, 0⟩, ⟨0, []⟩, 0, []⟩ with ⟨code, settings, final, ended, success, _⟩
  have gives (index : Nat) (name : Bytes) : formX.GivesPart index name [120] :=
    ⟨_, formX_read (by decide) (Nat.le_of_eq List.length_replicate.symm) _ _,
      textOf_splice_zero (by decide : 0 ∉ ([120] : Bytes)), by decide, by decide⟩
  refine ⟨code, settings, final, ended, success.mpr ⟨some (dpsString [120] [120] [120] [120]), none, ?_⟩⟩
  rw [Assembled, if_pos (by decide)]
  exact ⟨_, _, _, _, gives _ _, gives _ _, gives _ _, gives _ _, by decide, rfl, rfl⟩

end Web
end DevKit
