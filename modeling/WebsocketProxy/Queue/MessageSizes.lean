import WebsocketProxy.Queue.ClientRequests
import WebsocketProxy.Server.Run

/-!
# The sizes of messages

The size of a message is a 32-bit number. It is the sum of the sizes of the structures and of
the length of the payload, and wraps around. `PayloadCall` are the calls of clients and of the
proxy that publish a payload, with the stores they make into the bytes they reserved. `Sized`
says that the size is that of the message with its payload, that the bytes set to zero and the
bytes of the payload are reserved ones, and that the length published is that of the payload;
`sized_iff` says when. What clients read of the stores of the proxy is the message the proxy
publishes (`onWsError_read`, `onWsData_read`); what the proxy reads of those of a client is in
`ClientRequests`.
-/

/-- The size is the sum if and only if the sum does not wrap around. -/
theorem toNat_getMessageSize_iff {size : ℕ} {len : UInt32} :
  (getMessageSize size len).toNat = Message.dataOffset + size + len.toNat ↔
    Message.dataOffset + size + len.toNat < 2 ^ 32
  := by
  constructor
  · intro h
    rw [← h]
    apply UInt32.toNat_lt
  · intro h
    apply UInt32.toNat_ofNat_of_lt' h

/-! ### The stores of the proxy -/

namespace MessageStores

/-- The first bytes are copied, unless there are none to copy. The pointer to the bytes is null
only if there are none. -/
def memcpy (a : ℕ) (bytes : Bytes) (len : UInt32) : List Store :=
  if len = 0 then [] else [⟨a, bytes.take len.toNat⟩]

def onWsError (px : WebsocketProxy) (a : ℕ) (id : UInt64) (err : Bytes) (len : UInt32) :
    List Store :=
  Message.stores px.pid a (getMessageSize 12 len) 7
    (.u64 (a + Message.dataOffset) id :: .u32 (a + Message.dataOffset + 8) len ::
      memcpy (a + Message.dataOffset + 12) err len)

def onWsData (px : WebsocketProxy) (a : ℕ) (id : UInt64) (data : Bytes) (len remaining : UInt32) :
    List Store :=
  Message.stores px.pid a (getMessageSize 16 len) 6
    (.u64 (a + Message.dataOffset) id :: .u32 (a + Message.dataOffset + 8) len ::
      .u32 (a + Message.dataOffset + 12) remaining ::
      memcpy (a + Message.dataOffset + 16) data len)

/-- A copy writes from its address on, at most as many bytes as its length says. -/
theorem memcpy_within {a : ℕ} {bytes : Bytes} {len : UInt32} {s : Store}
    (hs : s ∈ memcpy a bytes len) :
  s.address = a ∧ s.bytes.length ≤ len.toNat
  := by
  unfold memcpy at hs
  split at hs
  case isTrue => cases hs
  case isFalse =>
    rw [List.mem_singleton.mp hs]
    use rfl
    apply List.length_take_le

/-- Memory that holds what was copied holds the first bytes. -/
theorem memcpy_holds {m : Memory} {a : ℕ} {bytes : Bytes} {len : UInt32}
    (h : ∀ s ∈ memcpy a bytes len, m.Holds s.address s.bytes) :
  m.Holds a (bytes.take len.toNat)
  := by
  rcases eq_or_ne len 0 with rfl | hne
  · rintro i ⟨⟩
  · rw [memcpy, if_neg hne] at h
    apply h _ List.mem_cons_self

end MessageStores

/-! ### Calls with a payload -/

/-- A call that publishes a message with a payload, with the client or the proxy that makes it.
The length of what the proxy passes on is a `size_t`. -/
inductive PayloadCall where
  | subscribe (c : WebsocketProxyClient) (id : UInt64) (symbol : Bytes) (request : Payload)
      (type : SubscriptionType)
  | unsubscribe (c : WebsocketProxyClient) (id : UInt64) (symbol : Bytes) (request : Payload)
  | send (c : WebsocketProxyClient) (id : UInt64) (data : Payload)
  | onWsError (px : WebsocketProxy) (id : UInt64) (err : Bytes)
  | onWsData (px : WebsocketProxy) (id : UInt64) (data : Bytes) (remaining : UInt32)

namespace PayloadCall

/-- The size of the structure before the payload. -/
def structSize : PayloadCall → ℕ
  | subscribe .. | unsubscribe .. => 270
  | send .. | onWsError .. => 12
  | onWsData .. => 16

/-- The offset of the field with the length. -/
def lenOffset : PayloadCall → ℕ
  | subscribe .. | unsubscribe .. => WsSubscription.requestLenOffset
  | send .. | onWsError .. | onWsData .. => Message.dataOffset + 8

def payload : PayloadCall → Bytes
  | subscribe _ _ _ request _ | unsubscribe _ _ _ request => request.bytes
  | send _ _ data => data.bytes
  | onWsError _ _ bytes | onWsData _ _ bytes _ => bytes

/-- The length that is passed: the proxy converts it from a `size_t`. -/
def len (call : PayloadCall) : UInt32 := UInt32.ofNat call.payload.length

/-- The number of bytes that are reserved and published. -/
def size (call : PayloadCall) : UInt32 := getMessageSize call.structSize call.len

/-- The number of bytes of the message with its payload. -/
def extent (call : PayloadCall) : ℕ :=
  Message.dataOffset + call.structSize + call.payload.length

/-- The stores of a call into the bytes it reserves at an address. -/
def stores (a : ℕ) : PayloadCall → List Store
  | subscribe c id symbol request type => RequestStores.subscribe c a id symbol request type
  | unsubscribe c id symbol request => RequestStores.unsubscribe c a id symbol request
  | send c id data => RequestStores.send c a id data
  | onWsError px id err => MessageStores.onWsError px a id err (UInt32.ofNat err.length)
  | onWsData px id data remaining =>
      MessageStores.onWsData px a id data (UInt32.ofNat data.length) remaining

/-- The copy of the payload. -/
def copy (a : ℕ) (call : PayloadCall) : List Store :=
  match call with
  | subscribe .. | unsubscribe .. | send .. =>
      [⟨a + (Message.dataOffset + call.structSize), call.payload⟩]
  | onWsError .. | onWsData .. =>
      MessageStores.memcpy (a + (Message.dataOffset + call.structSize)) call.payload call.len

/-- The first store of a call is that of zeros, and the copy of the payload is another. -/
theorem sublist_stores (a : ℕ) (call : PayloadCall) :
  (.zero a call.size.toNat :: call.copy a).Sublist (call.stores a)
  := by
  cases call with
  | subscribe | unsubscribe =>
      apply List.Sublist.cons_cons
      apply List.singleton_sublist.mpr
      iterate 6 apply List.mem_cons_of_mem
      apply List.mem_cons_self
  | send =>
      apply List.Sublist.cons_cons
      apply List.singleton_sublist.mpr
      iterate 4 apply List.mem_cons_of_mem
      apply List.mem_cons_self
  | onWsError =>
      apply List.Sublist.cons_cons
      iterate 4 apply List.Sublist.cons
      apply List.Sublist.refl _
  | onWsData =>
      apply List.Sublist.cons_cons
      iterate 5 apply List.Sublist.cons
      apply List.Sublist.refl _

/-- The size of the message, as a number, is that of the structures and the payload; the bytes
set to zero and those of the payload are reserved; and the length that is published is that of
the payload. -/
structure Sized (m : Memory) (a : ℕ) (call : PayloadCall) : Prop where
  size : call.size.toNat = call.extent
  zeroed : (Store.zero a call.size.toNat).Within a call.size.toNat
  copied : ∀ s ∈ call.copy a, s.Within a call.size.toNat
  published : ((m.run (call.stores a)).readU32 (a + call.lenOffset)).toNat = call.payload.length

/-- A symbol that reaches the field with the length has the bytes of the length there. -/
def SparesLength : PayloadCall → Prop
  | subscribe _ _ symbol request _ | unsubscribe _ _ symbol request =>
      ∀ i < 4, 264 + i < symbol.length →
        symbol.getD (264 + i) 0 = Memory.digit request.bytes.length i
  | send .. | onWsError .. | onWsData .. => True

/-! ### The size and the copy -/

variable {m : Memory} {a : ℕ} {call : PayloadCall}

theorem structSize_le (call : PayloadCall) :
  call.structSize ≤ 270
  := by
  cases call with
  | subscribe | unsubscribe => exact Nat.le_refl 270
  | send | onWsError | onWsData => exact Nat.le_of_ble_eq_true rfl

theorem toNat_len_of_lt (h : call.payload.length < 2 ^ 32) :
  call.len.toNat = call.payload.length
  := UInt32.toNat_ofNat_of_lt' h

theorem toNat_len_le (call : PayloadCall) :
  call.len.toNat ≤ call.payload.length
  := by
  rw [len, UInt32.toNat_ofNat']
  apply Nat.mod_le

/-- The size is that of the message if and only if it does not wrap around, although the length
is converted before it is added. -/
theorem toNat_size_iff :
  call.size.toNat = call.extent ↔ call.extent < 2 ^ 32
  := by
  constructor
  · intro h
    rw [← h]
    apply UInt32.toNat_lt
  · intro h
    have hlen : call.len.toNat = call.payload.length := by
      apply toNat_len_of_lt
      exact (Nat.le_add_left _ _).trans_lt h
    rw [extent, ← hlen] at h
    rw [extent, ← hlen]
    apply toNat_getMessageSize_iff.mpr h

/-- Copies start behind the structure, and copy as many bytes as the length says. -/
theorem mem_copy {s : Store} (hs : s ∈ call.copy a) :
  s.address = a + (Message.dataOffset + call.structSize) ∧ s.bytes.length = call.len.toNat
  := by
  cases call with
  | subscribe _ _ _ payload | unsubscribe _ _ _ payload | send _ _ payload =>
      rw [List.mem_singleton.mp hs]
      exact ⟨rfl, (Payload.toNat_len payload).symm⟩
  | onWsError | onWsData =>
      rw [copy, MessageStores.memcpy] at hs
      split at hs
      case isTrue => cases hs
      case isFalse =>
        rw [List.mem_singleton.mp hs]
        use rfl
        rw [List.length_take]
        apply min_eq_left (toNat_len_le _)

/-- A payload with a length that is not zero is copied. -/
theorem exists_mem_copy (hlen : call.len ≠ 0) :
  ∃ s, s ∈ call.copy a
  := by
  cases call with
  | subscribe | unsubscribe | send => exact ⟨_, List.mem_cons_self⟩
  | onWsError | onWsData =>
      rw [copy, MessageStores.memcpy, if_neg hlen]
      exact ⟨_, List.mem_cons_self⟩

/-- The copy stays inside the reserved bytes if and only if the size does not wrap around: if it
does, fewer bytes are reserved than come before the payload. -/
theorem copy_within_iff :
  (∀ s ∈ call.copy a, s.Within a call.size.toNat) ↔
    Message.dataOffset + call.structSize + call.len.toNat < 2 ^ 32
  := by
  have hstruct := call.structSize_le
  constructor
  · intro h
    by_contra hwrap
    have hoffset : Message.dataOffset = 10 := by rfl
    have hlen := UInt32.toNat_lt call.len
    have hsize : call.size.toNat < Message.dataOffset + call.structSize := by
      rw [size, getMessageSize, UInt32.toNat_ofNat']
      omega
    have hne : call.len ≠ 0 := by
      intro hzero
      rw [hzero, UInt32.toNat_zero] at hwrap
      omega
    obtain ⟨s, hs⟩ := exists_mem_copy (a := a) hne
    obtain ⟨haddress, hlength⟩ := mem_copy hs
    -- the first byte of the payload is beyond the reserved ones
    obtain ⟨-, hlt⟩ := h s hs s.address ⟨Nat.le_refl _, by omega⟩
    omega
  · intro h s hs
    have hsize : call.size.toNat = _ := toNat_getMessageSize_iff.mpr h
    obtain ⟨haddress, hlength⟩ := mem_copy hs
    apply Store.within_of_le
    · omega
    · omega

/-! ### The length that is published -/

/-- The bytes of `request_len` in a request to subscribe or to unsubscribe: those of the symbol,
as far as it reaches them, and those of the length. -/
theorem run_requestLen {c : WebsocketProxyClient} {size : UInt32} {type v : UInt8} {id : UInt64}
    {symbol request : Bytes} {len : UInt32} {k i : ℕ} (hk : k = 278 ∨ k = 279) (hi : i < 4) :
  m.run (RequestStores.request c a size type
      [.u32 (a + 274) len, .u64 (a + 266) id, .byte (a + k) v, ⟨a + 10, symbol⟩,
        ⟨a + 280, request⟩]) (a + 274 + i)
    = if 264 + i < symbol.length then symbol.getD (264 + i) 0 else Memory.digit len.toNat i
  := by
  split
  case isTrue hreach =>
    have hcovers : Store.Covers ⟨a + 10, symbol⟩ (a + 274 + i) := by
      constructor
      · dsimp only
        omega
      · dsimp only
        omega
    refine (@Memory.run_written m
      [.zero a size.toNat, .u64 a c.pid, .byte (a + 8) type, .u32 (a + 274) len, .u64 (a + 266) id,
        .byte (a + k) v]
      [⟨a + 280, request⟩, .byte (a + 9) 0] _ _ hcovers ?_).trans ?_
    · simp only [List.forall_mem_cons, Store.Covers, Store.byte_address, Store.byte_length,
        List.not_mem_nil, IsEmpty.forall_iff, implies_true, and_true]
      omega
    · congr 1
      dsimp only
      omega
  case isFalse hreach =>
    have hcovers : (Store.u32 (a + 274) len).Covers (a + 274 + i) := by
      rw [Store.Covers, Store.u32_address, Store.u32_length]
      omega
    refine (@Memory.run_written m [.zero a size.toNat, .u64 a c.pid, .byte (a + 8) type]
      [.u64 (a + 266) id, .byte (a + k) v, ⟨a + 10, symbol⟩, ⟨a + 280, request⟩, .byte (a + 9) 0]
      _ _ hcovers ?_).trans ?_
    · simp only [List.forall_mem_cons, Store.Covers, Store.u64_address, Store.u64_length,
        Store.byte_address, Store.byte_length, List.not_mem_nil, IsEmpty.forall_iff, implies_true,
        and_true]
      omega
    · rw [Store.u32_address, Nat.add_sub_cancel_left]
      apply Store.nat_getD hi

/-- Where no symbol can reach the length, it is published as it was passed. -/
theorem readU32_run {before after : List Store} {v : UInt32} {b : ℕ}
    (hafter : ∀ t ∈ after, (Store.u32 b v).Apart t) :
  (m.run (before ++ .u32 b v :: after)).readU32 b = v
  := (Memory.run_holds_of_after hafter).readU32

/-- If the length is not converted to another one, it is published, unless a symbol overwrites
it. -/
theorem published_iff (hlt : call.payload.length < 2 ^ 32) :
  ((m.run (call.stores a)).readU32 (a + call.lenOffset)).toNat = call.payload.length ↔
    call.SparesLength
  := by
  have hlen := toNat_len_of_lt hlt
  cases call with
  | subscribe c id symbol request type =>
      rw [Memory.toNat_readU32, Memory.readNat_eq_iff hlt]
      apply forall₂_congr
      intro i hi
      have hrun : m.run (RequestStores.subscribe c a id symbol request type) (a + 274 + i) = _ :=
        run_requestLen (Or.inr rfl) hi
      rw [Payload.toNat_len] at hrun
      apply hrun.congr_left.trans ite_eq_right_iff
  | unsubscribe c id symbol request =>
      rw [Memory.toNat_readU32, Memory.readNat_eq_iff hlt]
      apply forall₂_congr
      intro i hi
      have hrun : m.run (RequestStores.unsubscribe c a id symbol request) (a + 274 + i) = _ :=
        run_requestLen (Or.inl rfl) hi
      rw [Payload.toNat_len] at hrun
      apply hrun.congr_left.trans ite_eq_right_iff
  | send c id data =>
      apply iff_of_true _ trivial
      have hread : (m.run (RequestStores.send c a id data)).readU32 (a + 18) = data.len := by
        apply @readU32_run m [.zero a (getMessageSize 12 data.len).toNat, .u64 a c.pid,
          .byte (a + 8) 5] [.u64 (a + 10) id, ⟨a + 22, data.bytes⟩, .byte (a + 9) 0] _ (a + 18)
        simp only [List.forall_mem_cons, Store.Apart, Store.u64_address, Store.u64_length,
          Store.u32_address, Store.u32_length, Store.byte_address, Store.byte_length,
          List.not_mem_nil, IsEmpty.forall_iff, implies_true, and_true]
        omega
      exact (congrArg UInt32.toNat hread).trans hlen
  | onWsError px id err =>
      apply iff_of_true _ trivial
      have hread : (m.run (MessageStores.onWsError px a id err (UInt32.ofNat err.length))).readU32
          (a + 18) = UInt32.ofNat err.length := by
        apply @readU32_run m [.zero a _, .u64 a px.pid, .byte (a + 8) 7, .u64 (a + 10) id]
        intro t ht
        apply Or.inl
        rw [(MessageStores.memcpy_within ht).1, Store.u32_address, Store.u32_length]
      exact (congrArg UInt32.toNat hread).trans hlen
  | onWsData px id data remaining =>
      apply iff_of_true _ trivial
      have hread : (m.run (MessageStores.onWsData px a id data (UInt32.ofNat data.length)
          remaining)).readU32 (a + 18) = UInt32.ofNat data.length := by
        apply @readU32_run m [.zero a _, .u64 a px.pid, .byte (a + 8) 6, .u64 (a + 10) id]
        intro t ht
        apply Or.inl
        rcases List.mem_cons.mp ht with rfl | ht
        · rw [Store.u32_address, Store.u32_length]
          apply Nat.le_refl _
        · rw [(MessageStores.memcpy_within ht).1, Store.u32_address, Store.u32_length,
            Message.dataOffset]
          omega
      exact (congrArg UInt32.toNat hread).trans hlen

/-- For every call on both sides, every payload, and any memory: the size, the bytes written,
and the length published are as they should be, if and only if the message has fewer than
`2 ^ 32` bytes, and no symbol overwrites the length. -/
theorem sized_iff :
  call.Sized m a ↔ call.extent < 2 ^ 32 ∧ call.SparesLength
  := by
  constructor
  · rintro ⟨hsize, -, -, hpublished⟩
    have hextent := toNat_size_iff.mp hsize
    have hlt : call.payload.length < 2 ^ 32 := (Nat.le_add_left _ _).trans_lt hextent
    exact ⟨hextent, (published_iff hlt).mp hpublished⟩
  · rintro ⟨hextent, hspares⟩
    have hlt : call.payload.length < 2 ^ 32 := (Nat.le_add_left _ _).trans_lt hextent
    constructor
    · apply toNat_size_iff.mpr hextent
    · apply Store.within_of_le (Nat.le_refl a)
      rw [Store.zero, List.length_replicate]
    · apply copy_within_iff.mpr
      rw [toNat_len_of_lt hlt]
      exact hextent
    · exact (published_iff hlt).mpr hspares

/-- A client sends as many bytes. -/
def sendBytes (length : ℕ) (h : length < 2 ^ 32) : PayloadCall :=
  .send (WebsocketProxyClient.start 7 []) 1
    ⟨List.replicate length 65, by rw [List.length_replicate]; exact h⟩

/-- The proxy passes on as many bytes it has read. -/
def readBytes (length : ℕ) : PayloadCall :=
  .onWsData (WebsocketProxy.start 7 fun _ => 0) 1 (List.replicate length 65) 0

/-- A client that sends `2 ^ 32 - 22` bytes reserves none, and copies them all. The proxy
publishes that it has read no bytes where it has read `2 ^ 32`. -/
theorem not_sized_wrapping :
  ((sendBytes 4294967274 (by decide)).size = 0 ∧
      ¬ (∀ s ∈ (sendBytes 4294967274 (by decide)).copy 0, s.Within 0 0) ∧
      ¬ (sendBytes 4294967274 (by decide)).Sized (fun _ => 0) 0) ∧
    (readBytes 4294967296).payload.length = 4294967296 ∧ (readBytes 4294967296).len = 0 ∧
      ¬ (readBytes 4294967296).Sized (fun _ => 0) 0
  := by
  have hsend : ∀ n h, (sendBytes n h).payload.length = n := fun n _ => List.length_replicate
  have hread : ∀ n, (readBytes n).payload.length = n := fun n => List.length_replicate
  have hsize : (sendBytes 4294967274 (by decide)).size = 0 := by
    rw [size, len, hsend]
    rfl
  have hlen : (readBytes 4294967296).len = 0 := by
    rw [len, hread]
    rfl
  refine ⟨⟨hsize, ?_, ?_⟩, hread _, hlen, ?_⟩
  · intro hwithin
    have hcopy := @copy_within_iff 0 (sendBytes 4294967274 (by decide))
    rw [hsize, UInt32.toNat_zero] at hcopy
    have hlt := hcopy.mp hwithin
    rw [len, hsend] at hlt
    exact absurd hlt (by decide)
  · rintro ⟨hextent, -, -, -⟩
    have hlt := toNat_size_iff.mp hextent
    rw [extent, hsend] at hlt
    exact absurd hlt (by decide)
  · rintro ⟨hextent, -, -, -⟩
    have hlt := toNat_size_iff.mp hextent
    rw [extent, hread] at hlt
    exact absurd hlt (by decide)

end PayloadCall

/-! ### What is read of the messages of the proxy -/

namespace MessageStores

variable {px : WebsocketProxy} {m m' : Memory} {a k : ℕ} {id : UInt64} {len remaining : UInt32}
variable {bytes : Bytes} {type : UInt8} {fields : List Store}

/-- Fields of a structure and a copy behind it lay out a message, if the size does not wrap
around. -/
theorem memcpy_lay (hwrap : Message.dataOffset + k + len.toNat < 2 ^ 32)
    (hapart : fields.Pairwise Store.Apart)
    (hwithin : ∀ s ∈ fields, a + Message.dataOffset ≤ s.address ∧
      s.address + s.bytes.length ≤ a + Message.dataOffset + k) :
  Store.Lay
    (Message.stores px.pid a (getMessageSize k len) type
      (fields ++ memcpy (a + Message.dataOffset + k) bytes len))
    a (getMessageSize k len).toNat
  := by
  have hsize := toNat_getMessageSize_iff.mpr hwrap
  have hoffset : Message.statusOffset < Message.dataOffset := by decide
  apply Message.stores_lay
  · omega
  · refine List.pairwise_append.mpr ⟨hapart, ?_, ?_⟩
    · unfold memcpy
      split
      · exact .nil
      · apply List.pairwise_singleton
    · intro s hs t ht
      apply Or.inl
      rw [(memcpy_within ht).1]
      exact (hwithin s hs).2
  · intro s hs
    rcases List.mem_append.mp hs with hs | hs
    · obtain ⟨hle, hend⟩ := hwithin s hs
      omega
    · obtain ⟨haddress, hlength⟩ := memcpy_within hs
      omega

/-- What is read of such a message: its header, its fields, and the bytes that were copied. -/
theorem memcpy_read (hwrap : Message.dataOffset + k + len.toNat < 2 ^ 32)
    (hapart : fields.Pairwise Store.Apart)
    (hwithin : ∀ s ∈ fields, a + Message.dataOffset ≤ s.address ∧
      s.address + s.bytes.length ≤ a + Message.dataOffset + k)
    (hle : len.toNat ≤ bytes.length)
    (hm : (m.run (Message.stores px.pid a (getMessageSize k len) type
      (fields ++ memcpy (a + Message.dataOffset + k) bytes len))).Agree m' a
      (getMessageSize k len).toNat) :
  Message.read m' a = px.reserveMessage (Message.Data.read m' a) ∧
    m' (a + Message.typeOffset) = type ∧
    (∀ s ∈ fields, m'.Holds s.address s.bytes) ∧
    m'.bytes (a + Message.dataOffset + k) len.toNat = bytes.take len.toNat
  := by
  have hsize := toNat_getMessageSize_iff.mpr hwrap
  have hoffset : Message.statusOffset < Message.dataOffset := by decide
  obtain ⟨hpid, htype, hheld, hblank⟩ :=
    Message.stores_read (memcpy_lay hwrap hapart hwithin) hm
  have hstatus : m' (a + Message.statusOffset) = 0 := by
    apply hblank _ (Nat.le_refl _)
    · omega
    · rintro s hs ⟨hle, -⟩
      rcases List.mem_append.mp hs with hs | hs
      · have := (hwithin s hs).1
        omega
      · have := (memcpy_within hs).1
        omega
  refine ⟨?_, htype, ?_, ?_⟩
  · rw [Message.read, hpid, hstatus]
    rfl
  · intro s hs
    apply hheld s (List.mem_append_left _ hs)
  · have hbytes : m'.Holds (a + Message.dataOffset + k) (bytes.take len.toNat) := by
      apply memcpy_holds
      intro s hs
      apply hheld s (List.mem_append_right _ hs)
    have hread := hbytes.bytes
    rw [List.length_take, min_eq_left hle] at hread
    exact hread

/-- What clients read of an error is the message that the proxy publishes. -/
theorem onWsError_read (hwrap : Message.dataOffset + 12 + len.toNat < 2 ^ 32)
    (hle : len.toNat ≤ bytes.length)
    (hm : (m.run (onWsError px a id bytes len)).Agree m' a (getMessageSize 12 len).toNat) :
  (px.onWsError id bytes len).serverQueue = px.serverQueue ++ [Message.read m' a]
  := by
  have hwithin : ∀ s ∈ [Store.u64 (a + 10) id, .u32 (a + 18) len],
      a + Message.dataOffset ≤ s.address ∧
        s.address + s.bytes.length ≤ a + Message.dataOffset + 12 := by
    simp only [List.forall_mem_cons, Store.u64_address, Store.u64_length, Store.u32_address,
      Store.u32_length, List.not_mem_nil, IsEmpty.forall_iff, implies_true, and_true,
      Message.dataOffset]
    omega
  have hapart : [Store.u64 (a + 10) id, .u32 (a + 18) len].Pairwise Store.Apart :=
    List.pairwise_pair.mpr (Or.inl (Nat.le_refl _))
  obtain ⟨hread, htype, hheld, hbytes⟩ := memcpy_read hwrap hapart hwithin hle hm
  have hid : m'.readU64 (a + 10) = id := (hheld _ List.mem_cons_self).readU64
  have hlen : m'.readU32 (a + 10 + 8) = len := (hheld (.u32 (a + 18) len) (by simp)).readU32
  have hdata : Message.Data.read m' a = .wsError { id, len, err := bytes.take len.toNat } := by
    rw [Message.Data.read, htype, ← hbytes]
    change Message.Data.wsError
      { id := m'.readU64 (a + 10)
        len := m'.readU32 (a + 10 + 8)
        err := m'.bytes (a + 10 + 12) (m'.readU32 (a + 10 + 8)).toNat } = _
    rw [hid, hlen]
    rfl
  rw [hread, hdata]
  rfl

/-- What clients read of data is the message that the proxy publishes. -/
theorem onWsData_read (hwrap : Message.dataOffset + 16 + len.toNat < 2 ^ 32)
    (hle : len.toNat ≤ bytes.length)
    (hm : (m.run (onWsData px a id bytes len remaining)).Agree m' a
      (getMessageSize 16 len).toNat) :
  (px.onWsData id bytes len remaining).serverQueue = px.serverQueue ++ [Message.read m' a]
  := by
  have hwithin : ∀ s ∈ [Store.u64 (a + 10) id, .u32 (a + 18) len, .u32 (a + 22) remaining],
      a + Message.dataOffset ≤ s.address ∧
        s.address + s.bytes.length ≤ a + Message.dataOffset + 16 := by
    simp only [List.forall_mem_cons, Store.u64_address, Store.u64_length, Store.u32_address,
      Store.u32_length, List.not_mem_nil, IsEmpty.forall_iff, implies_true, and_true,
      Message.dataOffset]
    omega
  have hapart : [Store.u64 (a + 10) id, .u32 (a + 18) len, .u32 (a + 22) remaining].Pairwise
      Store.Apart := by
    simp only [List.pairwise_cons, List.forall_mem_cons, Store.Apart, Store.u64_address,
      Store.u64_length, Store.u32_address, Store.u32_length, List.not_mem_nil,
      IsEmpty.forall_iff, implies_true, List.Pairwise.nil, and_true]
    omega
  obtain ⟨hread, htype, hheld, hbytes⟩ := memcpy_read hwrap hapart hwithin hle hm
  have hid : m'.readU64 (a + 10) = id := (hheld _ List.mem_cons_self).readU64
  have hlen : m'.readU32 (a + 10 + 8) = len := (hheld (.u32 (a + 18) len) (by simp)).readU32
  have hremaining : m'.readU32 (a + 10 + 12) = remaining :=
    (hheld (.u32 (a + 22) remaining) (by simp)).readU32
  have hdata : Message.Data.read m' a
      = .wsData { id, len, remaining, data := bytes.take len.toNat } := by
    rw [Message.Data.read, htype, ← hbytes]
    change Message.Data.wsData
      { id := m'.readU64 (a + 10)
        len := m'.readU32 (a + 10 + 8)
        remaining := m'.readU32 (a + 10 + 12)
        data := m'.bytes (a + 10 + 16) (m'.readU32 (a + 10 + 8)).toNat } = _
    rw [hid, hlen, hremaining]
    rfl
  rw [hread, hdata]
  rfl

end MessageStores
