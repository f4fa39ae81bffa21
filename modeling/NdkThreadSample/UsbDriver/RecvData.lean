import NdkThreadSample.Library.Countdown
import NdkThreadSample.UsbDriver.Operations

/-!
The transfers of one `RecvData` call. The loop counts down `iDataLen`, and each
transfer asks for the smaller of the packet size and what is still missing. The
transfers fill `tmpData`, which nothing copies to `byData`.
-/

namespace NdkThreadSample.UsbDriver
open CText Countdown
variable (c : UsbDeviceConnection) (inPoint : UsbEndpoint) (iDataLen iTimeOut : Int)
  (reply : Nat → TransferReply)

def lengths (reply : Nat → TransferReply) (k : Nat) : Int := (reply k).length

/-- `tmpData` when the `k`-th transfer is made. -/
def scratch : Nat → List UInt8
  | 0 => List.replicate inPoint.maxPacketSize 0
  | k + 1 => write (scratch k) 0 (reply k).data

/-- The bytes of the first `k` transfers. -/
def received (k : Nat) : List UInt8 := (List.range k).flatMap (fun i => (reply i).data)

def request (k : Nat) : Int := min inPoint.maxPacketSize (left iDataLen (lengths reply) k)

def transfer (k : Nat) : UsbCall :=
  .bulkTransfer c inPoint (scratch inPoint reply k) (request inPoint iDataLen reply k) iTimeOut

/-- The state after the first `k` transfers. -/
def transferred (s : State) (k : Nat) : State :=
  { s with log := s.log ++ (List.range k).map (transfer c inPoint iDataLen iTimeOut reply) }

theorem transferred_succ (s : State) (k : Nat) :
    transferred c inPoint iDataLen iTimeOut reply s (k + 1) =
      (transferred c inPoint iDataLen iTimeOut reply s k).call
        (transfer c inPoint iDataLen iTimeOut reply k) := by
  simp [transferred, State.call, List.range_succ]

/-- What the loop comes to: the wanted bytes are counted down to nothing, or it
leaves at the first transfer that delivers none. -/
def LoopEnds (s : State) (r : Option Int × State) : Prop :=
  ∃ k, (Complete iDataLen (lengths reply) k ∧
      r = (some (iDataLen - left iDataLen (lengths reply) k),
        transferred c inPoint iDataLen iTimeOut reply s k)) ∨
    (Stuck iDataLen (lengths reply) k ∧
      r = (none, transferred c inPoint iDataLen iTimeOut reply s (k + 1)))

/-- From any of its rounds on. `cap` is the invariant of `inMax`: where it
differs from the packet size it is no less than what is missing. -/
theorem recvLoop_ends (s : State) (n : Nat) (served : Served iDataLen (lengths reply) n)
    (inMax : Int) (low : inMax ≤ inPoint.maxPacketSize)
    (cap : inMax = inPoint.maxPacketSize ∨ left iDataLen (lengths reply) n ≤ inMax) :
    LoopEnds c inPoint iDataLen iTimeOut reply s
      (recvLoop c inPoint iTimeOut reply n (left iDataLen (lengths reply) n) inMax
        (iDataLen - left iDataLen (lengths reply) n) (scratch inPoint reply n)
        (transferred c inPoint iDataLen iTimeOut reply s n)) := by
  induction hm : (left iDataLen (lengths reply) n).toNat using Nat.strong_induction_on
    generalizing n inMax with
  | h m ih =>
      rw [recvLoop]
      by_cases more : left iDataLen (lengths reply) n > 0
      · have asked : (if left iDataLen (lengths reply) n < inMax then
            left iDataLen (lengths reply) n else inMax) = request inPoint iDataLen reply n := by
          simp only [request]
          split <;> omega
        simp only [more, dif_pos, asked]
        have called := transferred_succ c inPoint iDataLen iTimeOut reply s n
        simp only [transfer] at called
        rw [← called]
        by_cases empty : (reply n).length ≤ 0
        · simp only [empty, dif_pos]
          exact ⟨n, .inr ⟨⟨served, more, empty⟩, rfl⟩⟩
        · have next := left_succ iDataLen (lengths reply) n
          have progress : 0 < lengths reply n := by simpa [lengths] using empty
          have moved : iDataLen - left iDataLen (lengths reply) n + (reply n).length =
              iDataLen - left iDataLen (lengths reply) (n + 1) := by
            rw [next]
            simp only [lengths]
            omega
          simp only [empty, dif_neg, not_false_iff, moved]
          rw [show left iDataLen (lengths reply) n - (reply n).length =
            left iDataLen (lengths reply) (n + 1) from next.symm]
          refine ih _ ?_ (n + 1) (served.succ more progress) _ ?_ ?_ rfl
          · omega
          · simp only [request]
            omega
          · simp only [request]
            omega
      · simp only [more, dif_neg, not_false_iff]
        exact ⟨n, .inl ⟨⟨served, by omega⟩, rfl⟩⟩

/-- `RecvData` on an open connection: all bytes have come, or a transfer
delivered none. -/
theorem recvData_ends {s : State} (held : s.mConnection = some c) (point : s.inPoint = some inPoint)
    (byData : List UInt8) (piRecved : List Int) :
    ∃ k, (Complete iDataLen (lengths reply) k ∧
        recvData byData iDataLen piRecved iTimeOut reply s =
          ⟨0, byData, piRecved.set 0 (iDataLen - left iDataLen (lengths reply) k),
            transferred c inPoint iDataLen iTimeOut reply s k⟩) ∨
      (Stuck iDataLen (lengths reply) k ∧
        recvData byData iDataLen piRecved iTimeOut reply s =
          ⟨-2, byData, piRecved, transferred c inPoint iDataLen iTimeOut reply s (k + 1)⟩) := by
  have loop := recvLoop_ends c inPoint iDataLen iTimeOut reply s 0 (.zero _ _)
    inPoint.maxPacketSize (Int.le_refl _) (.inl rfl)
  have start : transferred c inPoint iDataLen iTimeOut reply s 0 = s := by simp [transferred]
  rw [start, left_zero, Int.sub_self] at loop
  simp only [scratch] at loop
  obtain ⟨k, ends⟩ := loop
  refine ⟨k, ?_⟩
  cases ends with
  | inl all => exact .inl ⟨all.1, by simp only [recvData, held, point, all.2]⟩
  | inr empty => exact .inr ⟨empty.1, by simp only [recvData, held, point, empty.2]⟩

theorem recvData_of_complete {s : State} (held : s.mConnection = some c)
    (point : s.inPoint = some inPoint) (byData : List UInt8) (piRecved : List Int) {k : Nat}
    (complete : Complete iDataLen (lengths reply) k) :
    recvData byData iDataLen piRecved iTimeOut reply s =
      ⟨0, byData, piRecved.set 0 (iDataLen - left iDataLen (lengths reply) k),
        transferred c inPoint iDataLen iTimeOut reply s k⟩ := by
  obtain ⟨j, ends⟩ := recvData_ends c inPoint iDataLen iTimeOut reply held point byData piRecved
  cases ends with
  | inl all => rw [all.2, all.1.eq complete]
  | inr empty => exact (empty.1.not_complete complete).elim

/-- No transfer that is made returns more than it asked for. -/
def AtMostRequested : Prop :=
  ∀ k, Served iDataLen (lengths reply) k → 0 < left iDataLen (lengths reply) k →
    lengths reply k ≤ request inPoint iDataLen reply k

theorem AtMostRequested.within {inPoint : UsbEndpoint} {iDataLen : Int}
    {reply : Nat → TransferReply} (atMost : AtMostRequested inPoint iDataLen reply) :
    Within iDataLen (lengths reply) := by
  intro k served more
  have bound := atMost k served more
  simp only [request] at bound
  omega

section
variable {inPoint : UsbEndpoint} {iDataLen : Int} {reply : Nat → TransferReply} {k : Nat}

end

def listening : State := (openDevice 0 0 ⟨[scanner], true, some 7⟩ State.init).2

def twoChunks : Nat → TransferReply
  | 0 => ⟨3, [1, 2, 3]⟩
  | 1 => ⟨1, [4]⟩
  | _ => ⟨-1, []⟩

theorem twoChunks_atMostRequested : AtMostRequested scanner.interface0.endpoint0 4 twoChunks := by
  intro k served more
  match k with
  | 0 => decide
  | 1 => decide
  | n + 2 =>
      have error : lengths twoChunks (n + 2) = -1 := rfl
      simp only [request, error]
      omega

/-- After a result of 0 the array begins with the bytes of all the transfers
made, and is as it was beyond `iDataLen`. -/
def Delivers (byData : List UInt8) (s : State) (r : RecvResult) : Prop :=
  r.ret = 0 → ∃ k, r.state.log.length = s.log.length + k ∧
    r.byData.take iDataLen.toNat = received reply k ∧
    r.byData.drop iDataLen.toNat = byData.drop iDataLen.toNat

/-- `RecvData` delivers only what `byData` holds already. -/
theorem recvData_delivers_iff {s : State} (held : s.mConnection = some c)
    (point : s.inPoint = some inPoint) (atMost : AtMostRequested inPoint iDataLen reply)
    (byData : List UInt8) (piRecved : List Int) :
    Delivers iDataLen reply byData s (recvData byData iDataLen piRecved iTimeOut reply s) ↔
      ∀ k, Fills iDataLen (lengths reply) k → byData.take iDataLen.toNat = received reply k := by
  have within := atMost.within
  have made (k : Nat) : (transferred c inPoint iDataLen iTimeOut reply s k).log.length =
      s.log.length + k := by
    simp [transferred]
  obtain ⟨k, ends⟩ := recvData_ends c inPoint iDataLen iTimeOut reply held point byData piRecved
  cases ends with
  | inl all =>
      obtain ⟨complete, result⟩ := all
      rw [result]
      constructor
      · intro delivers j fills
        obtain ⟨n, count, bytes, _⟩ := delivers rfl
        rw [made] at count
        have same := complete.eq ((within.complete_iff j).mpr fills)
        have transfers : n = j := by omega
        rw [← transfers]
        exact bytes
      · intro holds _
        exact ⟨k, made k, holds k ((within.complete_iff k).mp complete), rfl⟩
  | inr empty =>
      obtain ⟨stuck, result⟩ := empty
      rw [result]
      constructor
      · intro _ j fills
        exact (stuck.not_complete ((within.complete_iff j).mpr fills)).elim
      · intro _ success
        exact absurd success (by simp)

theorem recvData_delivers_iff_twoChunks :
    listening.mConnection = some ⟨0, scanner, 7⟩ ∧
      listening.inPoint = some scanner.interface0.endpoint0 ∧
      AtMostRequested scanner.interface0.endpoint0 4 twoChunks ∧
      (Delivers 4 twoChunks [1, 2, 3, 4] listening
          (recvData [1, 2, 3, 4] 4 [0] 100 twoChunks listening) ↔
        ∀ k, Fills 4 (lengths twoChunks) k →
          ([1, 2, 3, 4] : List UInt8).take 4 = received twoChunks k) :=
  ⟨rfl, rfl, twoChunks_atMostRequested,
    recvData_delivers_iff ⟨0, scanner, 7⟩ scanner.interface0.endpoint0 4 100 twoChunks rfl rfl
      twoChunks_atMostRequested [1, 2, 3, 4] [0]⟩

/-- The four bytes are counted and lost. -/
theorem received_bytes_are_lost :
    ¬ Delivers 4 twoChunks [0, 0, 0, 0] listening
      (recvData [0, 0, 0, 0] 4 [0] 100 twoChunks listening) := by
  have complete : Complete 4 (lengths twoChunks) 2 := by
    unfold Complete Served
    decide
  rw [recvData_of_complete ⟨0, scanner, 7⟩ scanner.interface0.endpoint0 4 100 twoChunks rfl rfl _ _
    complete]
  intro delivers
  obtain ⟨k, count, bytes, _⟩ := delivers rfl
  have made : k = 2 := by
    simp only [transferred, List.length_append, List.length_map, List.length_range] at count
    omega
  subst made
  exact absurd bytes (by decide)

end NdkThreadSample.UsbDriver
