import ZepGpu.Training.Rounds

namespace ZepGpu
namespace Training

open Foundation Json
open Reference

/-!
# Signed updates

The coordinator verifies the code of an update when the extensions carry the
mark of one.  An update without the mark is not verified, even when the room
has a key; one with the mark is accepted only when its code verifies at the
moment of submission.
-/

section Marks

theorem mark_apart : ∀ letter, letter ∈ utf8 "|mac=" -> ∀ other : UInt8,
    (if other.toNat < 128 then Char.ofNat other.toNat else Char.ofNat 0xfffd) =
      (if letter.toNat < 128 then Char.ofNat letter.toNat else Char.ofNat 0xfffd) ->
    other = letter := by
  have bytes : ∀ letter, letter ∈ utf8 "|mac=" -> ∀ code, code < 256 ->
      (if code < 128 then Char.ofNat code else Char.ofNat 0xfffd) =
        (if letter.toNat < 128 then Char.ofNat letter.toNat else Char.ofNat 0xfffd) ->
      code = letter.toNat := by
    decide +kernel
  intro letter member other same
  exact UInt8.toNat_inj.mp (bytes letter member other.toNat other.toNat_lt same)

theorem macMark_eq : macMark = asciiReplace (utf8 "|mac=") := by
  decide +kernel

theorem splitOnce?_macMark (extensions : Bytes) :
    (splitOnce? macMark (asciiReplace extensions)).isSome =
      occursIn (utf8 "|mac=") extensions := by
  rw [macMark_eq, asciiReplace, asciiReplace, splitOnce?_map mark_apart, Option.isSome_map, occursIn]

theorem macOf_of_absent {extensions : Bytes} (absent : occursIn (utf8 "|mac=") extensions = false) :
    macOf extensions = "" := by
  rw [← splitOnce?_macMark, Option.isSome_eq_false_iff, Option.isNone_iff_eq_none] at absent
  rw [macOf, absent]

example : macOf (utf8 "4") = "" :=
  macOf_of_absent (by decide +kernel)

end Marks

section Codes

variable {P : Platform}

theorem verifyUpdateMac_eq_ok {update : NeutralOuterUpdate} {key mac : String} :
    verifyUpdateMac P update key mac = .ok () ↔
      strip key.toList ≠ [] ∧ mac = P.hmacSha256Hex (utf8 key) (canonicalUpdateBytes update) := by
  have digits : ∀ c, c ∈ (P.hmacSha256Hex (utf8 key) (canonicalUpdateBytes update)).toList ->
      c.toNat < 128 := by
    have small : ∀ c, c ∈ "0123456789abcdef".toList -> c.toNat < 128 :=
      forall_of_all (by decide)
    exact fun c member => small c (P.hmacSha256Hex_digits _ _ c member)
  rw [verifyUpdateMac, signUpdate, bind_eq_ok]
  constructor
  · rintro ⟨expected, signed, compared⟩
    rw [raiseIf_bind_eq_ok] at signed
    obtain ⟨filled, rfl⟩ := signed.imp id Except.ok.inj
    obtain ⟨equal, isEqual, passed⟩ := bind_eq_ok.mp compared
    rw [raiseIf_eq_ok, Bool.not_eq_false] at passed
    rw [compareDigest] at isEqual
    split_ifs at isEqual
    rw [← Except.ok.inj isEqual, decide_eq_true_eq] at passed
    exact ⟨filled, passed.symm⟩
  · rintro ⟨filled, rfl⟩
    refine ⟨_, raiseIf_bind_eq_ok.mpr ⟨filled, rfl⟩, bind_eq_ok.mpr ⟨true, ?_, rfl⟩⟩
    rw [compareDigest, if_pos, decide_eq_true rfl]
    rw [List.all_append, Bool.and_self, List.all_eq_true]
    intro c member
    exact decide_eq_true (digits c member)

/-- The extensions carry a code that verifies for the envelope's own room, run,
worker, round and payload, in a record made at some time. -/
def CarriesMac (P : Platform) (key : String) (envelope : BinaryEnvelope) : Prop :=
  ∃ timeNs update, envelopeToNeutral P envelope envelope.roomId envelope.runId timeNs = .ok update ∧
    verifyUpdateMac P update key (macOf envelope.extensions) = .ok ()

theorem not_carriesMac {key : String} {envelope : BinaryEnvelope}
    (absent : occursIn (utf8 "|mac=") envelope.extensions = false) : ¬ CarriesMac P key envelope := by
  rintro ⟨timeNs, update, _, verified⟩
  obtain ⟨_, same⟩ := verifyUpdateMac_eq_ok.mp verified
  have length := P.hmacSha256Hex_length (utf8 key) (canonicalUpdateBytes update)
  rw [← same, macOf_of_absent absent] at length
  cases length

theorem acceptLive_eq_ok {envelope : BinaryEnvelope} {room run key : String}
    {guard later : ReplayGuard} {timeNs : Int}
    (accepted : acceptLiveOuterEnvelope P envelope room run key guard timeNs = .ok later) :
    ∃ update, envelopeToNeutral P envelope room run timeNs = .ok update ∧
      verifyUpdateMac P update key (macOf envelope.extensions) = .ok () ∧
      guard.check update (macOf envelope.extensions) = .ok later := by
  rw [acceptLiveOuterEnvelope, bind_eq_ok] at accepted
  obtain ⟨update, isUpdate, accepted⟩ := accepted
  rw [acceptOuterUpdate, raiseIf_bind_eq_ok] at accepted
  obtain ⟨_, _, accepted⟩ := accepted.imp id bind_eq_ok.mp
  obtain ⟨_, verified, checked⟩ := bind_eq_ok.mp accepted.2
  exact ⟨update, isUpdate, verified, checked⟩

theorem scope_of_decode {data : Bytes} {expected : Scope} {envelope : BinaryEnvelope}
    (accepted : BinaryEnvelope.decode P data expected = .ok envelope) :
    (∀ room, expected.roomId = some room -> envelope.roomId = room) ∧
      ∀ run, expected.runId = some run -> envelope.runId = run := by
  rw [BinaryEnvelope.decode] at accepted
  obtain ⟨header, _, accepted⟩ := bind_eq_ok.mp accepted
  obtain ⟨body, _, accepted⟩ := bind_eq_ok.mp accepted
  obtain ⟨_, verified, same⟩ := bind_eq_ok.mp accepted
  obtain rfl := Except.ok.inj same
  rw [verifyScope, raiseIf_bind_eq_ok, raiseIf_bind_eq_ok] at verified
  obtain ⟨room, run, _⟩ := verified
  constructor
  · intro wanted isWanted
    rw [isWanted, Option.any_some, decide_eq_true_eq, not_not] at room
    exact room.symm
  · intro wanted isWanted
    rw [isWanted, Option.any_some, decide_eq_true_eq, not_not] at run
    exact run.symm

end Codes

/-! ## The worker's side -/

section Worker

variable {N : Numpy} (P : Platform)

def outerEnvelope (roomId runId workerId worker : String) (roundNumber : Int)
    (update : CompressedUpdate) (stampNs : Int) : BinaryEnvelope where
  roomId := roomId
  runId := runId
  workerId := worker
  transferId := P.strOfUuid (P.uuid5 ("zepgpu-diloco:" ++ runId ++ ":" ++ toString roundNumber ++
    ":" ++ workerId))
  round := roundNumber
  payloadType := "diloco_outer_delta"
  shape := [(update.payload.length : Int)]
  dtype := "uint8"
  compression := update.codec
  payload := update.payload
  timestampNs := stampNs
  extensions := utf8 (toString update.uncompressedBytes)

def signEnvelope (envelope : BinaryEnvelope) (roomId runId : String) (uncompressedBytes : Nat)
    (roomMacKey : Option String) (signNs : Int) : Except TrainingError BinaryEnvelope :=
  match roomMacKey.filter (fun key => key ≠ "") with
  | none => .ok envelope
  | some key => do
      let record ← envelopeToNeutral P envelope roomId runId signNs
      let extensions ← signLiveOuterExtensions P uncompressedBytes record key
      .ok { envelope with extensions }

/-- `_encode_outer_update`: the bytes, and the residuals of the compressor.
The envelope is stamped at one reading of the clock, and the record that is
signed is made at another. -/
def encodeOuterUpdate (roomId runId workerId : String) (roundNumber : Int)
    (delta globalState : Tensors N) (compressor : UpdateCompressor N) (residuals : Tensors N)
    (roomMacKey : Option String) (stampNs signNs : Int) :
    Except TrainingError (Bytes × Tensors N) := do
  validateMatchingShapes globalState delta
  let (update, residuals) ← compressor.compress delta residuals
  let worker ← Coordinator.canonicalId P workerId
  let envelope := outerEnvelope P roomId runId workerId worker roundNumber update stampNs
  let envelope ← signEnvelope P envelope roomId runId update.uncompressedBytes roomMacKey signNs
  let data ← envelope.encode P
  .ok (data, residuals)

end Worker

section Extensions

variable {P : Platform}

section

variable {size : Nat} {mac : String} (digits : ∀ c, c ∈ mac.toList -> c ∈ "0123456789abcdef".toList)

include digits

theorem asciiReplace_liveOuterExtensions :
    asciiReplace (liveOuterExtensions size mac) = (toString size).toList ++ (macMark ++ mac.toList) := by
  have small : ∀ c, c ∈ "0123456789abcdef".toList -> c.toNat < 128 :=
    forall_of_all (by decide)
  have sizeDigits : ∀ c, c ∈ (toString size).toList -> c.isDigit = true :=
    fun c member => isDigit_of_mem_natRepr member
  have text : (toString size ++ "|mac=" ++ mac).toList =
      (toString size).toList ++ (macMark ++ mac.toList) := by
    rw [String.toList_append, String.toList_append, List.append_assoc]
    rfl
  have plain : ∀ c, c ∈ (toString size ++ "|mac=" ++ mac).toList -> c.toNat < 128 := by
    intro c member
    rw [text, List.mem_append, List.mem_append] at member
    rcases member with digit | mark | hex
    · have isDigit := sizeDigits c digit
      simp only [Char.isDigit, Bool.and_eq_true, decide_eq_true_eq] at isDigit
      have bound : c.toNat ≤ 57 := isDigit.2
      omega
    · exact (forall_of_all (by decide) : ∀ c, c ∈ macMark -> c.toNat < 128) c mark
    · exact small c (digits c hex)
  rw [liveOuterExtensions, asciiReplace_utf8 plain, text]

theorem splitOnce?_liveOuterExtensions :
    splitOnce? macMark (asciiReplace (liveOuterExtensions size mac)) =
      some ((toString size).toList, mac.toList) := by
  have fresh : '|' ∉ (toString size).toList := fun member =>
    absurd (isDigit_of_mem_natRepr member) (by decide)
  rw [asciiReplace_liveOuterExtensions digits]
  exact splitOnce?_append fresh

theorem macOf_liveOuterExtensions : macOf (liveOuterExtensions size mac) = mac := by
  have noSpace : ∀ c, c ∈ "0123456789abcdef".toList -> isSpace c = false :=
    forall_of_all (by decide)
  rw [macOf, splitOnce?_liveOuterExtensions digits]
  dsimp only
  rw [strip_eq_self (fun c member => noSpace c (digits c member)), String.ofList_toList]

end

theorem signLive_eq_ok {size : Nat} {record : NeutralOuterUpdate} {key : String} {extensions : Bytes}
    (signed : signLiveOuterExtensions P size record key = .ok extensions) :
    macOf extensions = P.hmacSha256Hex (utf8 key) (canonicalUpdateBytes record) := by
  rw [signLiveOuterExtensions, signUpdate, bind_eq_ok] at signed
  obtain ⟨mac, isMac, same⟩ := signed
  rw [raiseIf_bind_eq_ok] at isMac
  rw [← Except.ok.inj same, ← Except.ok.inj isMac.2]
  exact macOf_liveOuterExtensions (P.hmacSha256Hex_digits _ _)

theorem createdAtNs_of_neutral {envelope : BinaryEnvelope} {room run : String} {timeNs : Int}
    {record : NeutralOuterUpdate} (made : envelopeToNeutral P envelope room run timeNs = .ok record) :
    record.createdAtNs = timeNs := by
  rw [envelopeToNeutral, raiseIf_bind_eq_ok] at made
  rw [← Except.ok.inj made.2]

end Extensions

namespace Reference

def keyed : Coordinator numpy :=
  { (start false).opening 0 with roomMacKey := some "room-key" }

def outerUpdate (roomMacKey : Option String) (signNs : Int) :
    Except TrainingError (Bytes × Tensors numpy) :=
  encodeOuterUpdate platform (platform.strOfUuid roomId) (platform.strOfUuid runId)
    (platform.strOfUuid firstWorker) 1 (tensors 1) (tensors 0) compressor Dict.empty roomMacKey
    1700000000000000000 signNs

def outerUpdateBytes (roomMacKey : Option String) (signNs : Int) : Bytes :=
  match outerUpdate roomMacKey signNs with
  | .ok (data, _) => data
  | .error _ => []

theorem outerUpdate_keyed : ∃ residuals,
    outerUpdate (some "room-key") 1700000000000000001 =
      .ok (outerUpdateBytes (some "room-key") 1700000000000000001, residuals) := by
  have made : (outerUpdate (some "room-key") 1700000000000000001).toBool = true := by
    decide +kernel
  rw [outerUpdateBytes]
  cases isMade : outerUpdate (some "room-key") 1700000000000000001 with
  | error error =>
    rw [isMade] at made
    cases made
  | ok pair => exact ⟨pair.2, rfl⟩

end Reference

namespace Coordinator

variable {N : Numpy} {P : Platform} {c : Coordinator N} {encoded : Bytes} {timeNs : Int}

/-! ## Enforcement -/

theorem macKeyFor_of_key {key : String} {envelope : BinaryEnvelope} (isKey : c.roomMacKey = some key)
    (filled : key ≠ "") :
    c.macKeyFor envelope =
      if occursIn (utf8 "|mac=") envelope.extensions = true then some key else none := by
  rw [macKeyFor, isKey, Option.filter_some]
  by_cases marked : occursIn (utf8 "|mac=") envelope.extensions = true
  · rw [if_pos marked, if_pos (decide_eq_true ⟨filled, marked⟩)]
  · rw [if_neg marked, if_neg]
    rw [decide_eq_true_eq, not_and]
    exact fun _ => marked

/-- Every accepted update carries a code that verifies, exactly when no
unmarked submission passes the other checks. -/
theorem accepted_carriesMac_iff {key : String} (isKey : c.roomMacKey = some key) (filled : key ≠ "") :
    (∀ receipt, (c.submitEncoded P encoded timeNs).result = .ok receipt ->
      receipt.disposition = .accepted ->
      ∃ envelope, BinaryEnvelope.decode P encoded c.scope = .ok envelope ∧
        CarriesMac P key envelope) ↔
    ∀ envelope active decoded, Acceptable P c encoded envelope active decoded ->
      occursIn (utf8 "|mac=") envelope.extensions = true := by
  constructor
  · intro enforced envelope active decoded acceptable
    by_contra unmarked
    have integrity : c.checkIntegrity P envelope timeNs = .ok c.replayGuard := by
      rw [checkIntegrity, macKeyFor_of_key isKey filled, if_neg unmarked]
    have accepts : Accepts P c encoded timeNs envelope active c.replayGuard decoded :=
      ⟨acceptable, integrity⟩
    obtain ⟨other, read, carries⟩ :=
      enforced (acceptance envelope) (by rw [accepts.submitEncoded]) rfl
    rw [acceptable.read] at read
    obtain rfl := Except.ok.inj read
    exact not_carriesMac (Bool.not_eq_true _ ▸ unmarked) carries
  · intro marked receipt result accepted
    obtain ⟨envelope, active, guard, decoded, accepts, _⟩ := submitEncoded_accepted result accepted
    have integrity := accepts.integrity
    rw [checkIntegrity, macKeyFor_of_key isKey filled,
      if_pos (marked envelope active decoded accepts.toAcceptable)] at integrity
    obtain ⟨update, isUpdate, verified, _⟩ := acceptLive_eq_ok integrity
    obtain ⟨room, run⟩ := scope_of_decode accepts.read
    refine ⟨envelope, accepts.read, timeNs, update, ?_, verified⟩
    rw [room _ rfl, run _ rfl]
    exact isUpdate

theorem submitEncoded_unsigned : (keyed.submitEncoded platform
    (outerUpdateBytes none 0) 1700000000000000002).result =
    .ok ⟨.accepted, platform.strOfUuid firstWorker, 1,
      "outer update accepted"⟩ := by
  decide +kernel

/-- The update of a worker without the key is accepted in a room with a key. -/
theorem unsigned_update_accepted :
    ¬ ∀ receipt, (keyed.submitEncoded platform
        (outerUpdateBytes none 0) 1700000000000000002).result = .ok receipt ->
      receipt.disposition = .accepted ->
      ∃ envelope, BinaryEnvelope.decode platform (outerUpdateBytes none 0)
        keyed.scope = .ok envelope ∧ CarriesMac platform "room-key" envelope := by
  intro enforced
  obtain ⟨envelope, read, carries⟩ := enforced _ submitEncoded_unsigned rfl
  have unmarked : ((BinaryEnvelope.decode platform (outerUpdateBytes none 0)
      keyed.scope).toOption.map (fun envelope =>
        occursIn (utf8 "|mac=") envelope.extensions)) = some false := by
    decide +kernel
  rw [read] at unmarked
  exact not_carriesMac (Option.some.inj unmarked) carries

/-- A marked update, whatever follows the mark. -/
theorem marked_update_carriesMac :
    keyed.roomMacKey = some "room-key" ∧
    ∀ receipt, (keyed.submitEncoded platform
        (updateBytes firstWorker firstTransfer 1 packedOne
          (utf8 "4|mac=00")) 1700000000000000002).result = .ok receipt ->
      receipt.disposition = .accepted ->
      ∃ envelope, BinaryEnvelope.decode platform
        (updateBytes firstWorker firstTransfer 1 packedOne
          (utf8 "4|mac=00")) keyed.scope = .ok envelope ∧
        CarriesMac platform "room-key" envelope := by
  refine ⟨rfl, (accepted_carriesMac_iff rfl (by decide)).mpr ?_⟩
  intro envelope active decoded acceptable
  have marked : ((BinaryEnvelope.decode platform
      (updateBytes firstWorker firstTransfer 1 packedOne
        (utf8 "4|mac=00")) keyed.scope).toOption.map (fun envelope =>
          occursIn (utf8 "|mac=") envelope.extensions)) = some true := by
    decide +kernel
  rw [acceptable.read] at marked
  exact Option.some.inj marked

/-! ## Honest updates -/

/-- What a worker with a key sends: an envelope with canonical identifiers
whose code was made for the record of the time of signing. -/
theorem encodeOuterUpdate_signed {room run : Uuid} {workerId key : String} {roundNumber : Int}
    {delta globalState residuals later : Tensors N} {compressor : UpdateCompressor N}
    {stampNs signNs : Int} (filled : key ≠ "")
    (produced : encodeOuterUpdate P (P.strOfUuid room) (P.strOfUuid run) workerId roundNumber delta
      globalState compressor residuals (some key) stampNs signNs = .ok (encoded, later)) :
    ∃ envelope record, envelope.encode P = .ok encoded ∧ envelope.Canonical P ∧
      envelope.roomId = P.strOfUuid room ∧ envelope.runId = P.strOfUuid run ∧
      envelope.timestampNs = stampNs ∧
      envelopeToNeutral P envelope (P.strOfUuid room) (P.strOfUuid run) signNs = .ok record ∧
      macOf envelope.extensions = P.hmacSha256Hex (utf8 key) (canonicalUpdateBytes record) := by
  rw [encodeOuterUpdate] at produced
  obtain ⟨_, _, produced⟩ := bind_eq_ok.mp produced
  obtain ⟨⟨update, next⟩, _, produced⟩ := bind_eq_ok.mp produced
  obtain ⟨worker, isWorker, produced⟩ := bind_eq_ok.mp produced
  obtain ⟨sent, isSent, produced⟩ := bind_eq_ok.mp produced
  obtain ⟨data, isData, final⟩ := bind_eq_ok.mp produced
  obtain ⟨rfl, rfl⟩ := Prod.mk.inj (Except.ok.inj final)
  have truthy : (some key).filter (fun key => key ≠ "") = some key := by
    rw [Option.filter_some, if_pos (decide_eq_true filled)]
  rw [signEnvelope, truthy] at isSent
  obtain ⟨record, isRecord, isSent⟩ := bind_eq_ok.mp isSent
  obtain ⟨extensions, isExtensions, same⟩ := bind_eq_ok.mp isSent
  obtain rfl := Except.ok.inj same
  refine ⟨_, record, isData, ?_, rfl, rfl, rfl, isRecord, signLive_eq_ok isExtensions⟩
  have canonicalWorker : ∃ id, worker = P.strOfUuid id := by
    rw [canonicalId] at isWorker
    split at isWorker
    · rename_i id _
      exact ⟨id, (Except.ok.inj isWorker).symm⟩
    · cases isWorker
  intro text member
  simp only [outerEnvelope, List.mem_cons, List.not_mem_nil, or_false] at member
  rcases member with rfl | rfl | rfl | rfl
  · exact ⟨_, rfl⟩
  · exact ⟨_, rfl⟩
  · exact canonicalWorker
  · exact ⟨_, rfl⟩

/-- The two codes of one envelope, made for records of different times. -/
def MacsDiffer (P : Platform) (c : Coordinator N) (key : String) (encoded : Bytes)
    (signNs timeNs : Int) : Prop :=
  ∀ envelope signed verified, BinaryEnvelope.decode P encoded c.scope = .ok envelope ->
    envelopeToNeutral P envelope c.roomId c.runId signNs = .ok signed ->
    envelopeToNeutral P envelope c.roomId c.runId timeNs = .ok verified ->
    canonicalUpdateBytes signed ≠ canonicalUpdateBytes verified ->
    P.hmacSha256Hex (utf8 key) (canonicalUpdateBytes signed) ≠
      P.hmacSha256Hex (utf8 key) (canonicalUpdateBytes verified)

/-- An update that was signed at an earlier reading of the clock is never
accepted by a coordinator with the key, in whatever state it is. -/
theorem not_accepted_of_signed {room run : Uuid} {workerId key : String} {roundNumber : Int}
    {delta globalState residuals later : Tensors N} {compressor : UpdateCompressor N}
    {stampNs signNs : Int} (filled : key ≠ "") (stamped : 0 < stampNs)
    (produced : encodeOuterUpdate P (P.strOfUuid room) (P.strOfUuid run) workerId roundNumber delta
      globalState compressor residuals (some key) stampNs signNs = .ok (encoded, later))
    (isKey : c.roomMacKey = some key) (elapsed : signNs < timeNs)
    (differ : MacsDiffer P c key encoded signNs timeNs) {receipt : UpdateReceipt}
    (result : (c.submitEncoded P encoded timeNs).result = .ok receipt) :
    receipt.disposition ≠ .accepted := by
  intro accepted
  obtain ⟨envelope, active, guard, decoded, accepts, _⟩ := submitEncoded_accepted result accepted
  obtain ⟨sent, record, isSent, canonical, sentRoom, sentRun, isStamp, isRecord, isMac⟩ :=
    encodeOuterUpdate_signed filled produced
  have same : sent = envelope := by
    have back := decode_encode canonical (isStamp ▸ stamped) isSent
    exact Except.ok.inj (back.symm.trans (decode_anywhere accepts.read))
  subst same
  obtain ⟨isRoom, isRun⟩ := scope_of_decode accepts.read
  rw [← sentRoom, ← sentRun, isRoom _ rfl, isRun _ rfl] at isRecord
  -- the mark is there, so that the code is verified
  have marked : occursIn (utf8 "|mac=") sent.extensions = true := by
    by_contra unmarked
    have length := P.hmacSha256Hex_length (utf8 key) (canonicalUpdateBytes record)
    rw [← isMac, macOf_of_absent (Bool.not_eq_true _ ▸ unmarked)] at length
    cases length
  have integrity := accepts.integrity
  rw [checkIntegrity, macKeyFor_of_key isKey filled, if_pos marked] at integrity
  obtain ⟨verified, isVerified, passed, _⟩ := acceptLive_eq_ok integrity
  have times : record.createdAtNs ≠ verified.createdAtNs := by
    rw [createdAtNs_of_neutral isRecord, createdAtNs_of_neutral isVerified]
    omega
  apply differ sent record verified accepts.read isRecord isVerified (canonicalUpdateBytes_ne times)
  rw [← isMac]
  exact (verifyUpdateMac_eq_ok.mp passed).2

/-- Whatever happens between signing and submission, an honest update that
was signed before is turned away, as long as the two codes differ. -/
theorem honest_update_never_accepted {room run : Uuid} {workerId key : String} {roundNumber : Int}
    {delta globalState residuals later : Tensors N} {compressor : UpdateCompressor N}
    {stampNs signNs : Int} (filled : key ≠ "") (stamped : 0 < stampNs)
    (produced : encodeOuterUpdate P (P.strOfUuid room) (P.strOfUuid run) workerId roundNumber delta
      globalState compressor residuals (some key) stampNs signNs = .ok (encoded, later))
    (isKey : c.roomMacKey = some key) (between : List (Call N)) (elapsed : signNs < timeNs)
    (differ : MacsDiffer P c key encoded signNs timeNs) :
    ¬ ∃ receipt, ((runCalls P c between).submitEncoded P encoded timeNs).result = .ok receipt ∧
      receipt.disposition = .accepted := by
  rintro ⟨receipt, result, accepted⟩
  have fixed := fixed_runCalls P c between
  have differLater : MacsDiffer P (runCalls P c between) key encoded signNs timeNs := by
    intro envelope signed verified
    rw [scope, fixed.roomId, fixed.runId]
    exact differ envelope signed verified
  exact not_accepted_of_signed filled stamped produced (fixed.roomMacKey.trans isKey) elapsed
    differLater result accepted

/-- A test for different codes. -/
def macsDiffer (P : Platform) (c : Coordinator N) (key : String) (encoded : Bytes)
    (signNs timeNs : Int) : Bool :=
  match BinaryEnvelope.decode P encoded c.scope with
  | .error _ => true
  | .ok envelope =>
    match envelopeToNeutral P envelope c.roomId c.runId signNs,
        envelopeToNeutral P envelope c.roomId c.runId timeNs with
    | .ok signed, .ok verified => decide
        (P.hmacSha256Hex (utf8 key) (canonicalUpdateBytes signed) ≠
          P.hmacSha256Hex (utf8 key) (canonicalUpdateBytes verified))
    | _, _ => true

theorem MacsDiffer.of_test {key : String} {signNs : Int}
    (computed : macsDiffer P c key encoded signNs timeNs = true) :
    MacsDiffer P c key encoded signNs timeNs := by
  intro envelope signed verified read isSigned isVerified _
  rw [macsDiffer, read] at computed
  dsimp only at computed
  rw [isSigned, isVerified] at computed
  exact of_decide_eq_true computed

theorem sample_macsDiffer : MacsDiffer platform keyed "room-key"
    (outerUpdateBytes (some "room-key") 1700000000000000001) 1700000000000000001
    1700000000000000002 :=
  MacsDiffer.of_test (by decide +kernel)

/-- The sample update is accepted when it is not signed, and not when it was
signed a nanosecond before. -/
theorem honest_update_turned_away :
    (∃ receipt, (keyed.submitEncoded platform
      (outerUpdateBytes none 0) 1700000000000000002).result = .ok receipt ∧
      receipt.disposition = .accepted) ∧
    ¬ ∃ receipt, (keyed.submitEncoded platform
      (outerUpdateBytes (some "room-key") 1700000000000000001)
      1700000000000000002).result = .ok receipt ∧ receipt.disposition = .accepted := by
  constructor
  · exact ⟨_, submitEncoded_unsigned, rfl⟩
  · rintro ⟨receipt, result, accepted⟩
    obtain ⟨residuals, produced⟩ := outerUpdate_keyed
    exact not_accepted_of_signed (by decide) (by decide) produced rfl (by decide) sample_macsDiffer
      result accepted

/-- The same after another call in between. -/
theorem honest_update_never_accepted_at_sample :
    ¬ ∃ receipt, ((runCalls platform keyed [.startRound 5]).submitEncoded
      platform (outerUpdateBytes (some "room-key") 1700000000000000001)
      1700000000000000002).result = .ok receipt ∧ receipt.disposition = .accepted := by
  obtain ⟨residuals, produced⟩ := outerUpdate_keyed
  exact honest_update_never_accepted (by decide) (by decide) produced rfl _ (by decide)
    sample_macsDiffer

end Coordinator

end Training
end ZepGpu
