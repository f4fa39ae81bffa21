import NdkThreadSample.CCallJava.Operations

/-!
The receive bridge against `RecvData`. The reference of `jArLen` stands where
`RecvData` takes a length, and the count is read back from `jArLen`, not from
`jArRecved`: the caller gets `iBufSize` from a VM that pins and 0 from one that
copies, as the count and as the result.
-/

namespace NdkThreadSample.CCallJava
open ManagedArray UsbDriver

/-- What the bridge promises for one call with a buffer of `iBufSize` bytes. -/
def Refines (iBufSize : Int) (r : BulkResult Int RecvResult) : Prop :=
  ∃ result, r.call = some (iBufSize, result) ∧ result.piRecved.head? = some r.count ∧
    r.pucData.take r.count.toNat = result.byData.take r.count.toNat ∧ r.ret = result.ret

/-- Each round of the loop receives at least one byte. -/
theorem recvLoop_index (c : UsbDeviceConnection) (inPoint : UsbEndpoint) (iTimeOut : Int)
    (reply : Nat → TransferReply) (n : Nat) (iDataLen inMax index : Int) (tmpData : List UInt8)
    (s : State) {last : Int}
    (done : (recvLoop c inPoint iTimeOut reply n iDataLen inMax index tmpData s).1 = some last) :
    index ≤ last ∧ (0 < iDataLen → index < last) := by
  fun_induction recvLoop c inPoint iTimeOut reply n iDataLen inMax index tmpData s with
  | case1 => cases done
  | case2 n iDataLen inMax index tmpData s _ _ _ _ received ih =>
      have rest := (ih done).1
      omega
  | case3 n iDataLen inMax index tmpData s empty =>
      cases done
      omega

/-- A call that asks for bytes and returns 0 has received some. -/
theorem recvData_count (byData : List UInt8) (iDataLen : Int) (iTimeOut : Int)
    (reply : Nat → TransferReply) (s : State) (more : 0 < iDataLen) (rest : List Int) :
    (recvData byData iDataLen (0 :: rest) iTimeOut reply s).ret < 0 ∨
      ((recvData byData iDataLen (0 :: rest) iTimeOut reply s).ret = 0 ∧
        ∃ count, 0 < count ∧
          (recvData byData iDataLen (0 :: rest) iTimeOut reply s).piRecved = count :: rest) := by
  unfold recvData
  split
  · next c inPoint _ _ =>
      dsimp only
      split
      · exact .inl (Int.negSucc_lt_zero 1)
      · next index s ended =>
          have counted := recvLoop_index c inPoint iTimeOut reply 0 iDataLen inPoint.maxPacketSize 0
            (List.replicate inPoint.maxPacketSize 0) _ (congrArg Prod.fst ended)
          exact .inr ⟨rfl, index, counted.2 more, rfl⟩
  · exact .inl (Int.negSucc_lt_zero 0)

/-- The count and the result are what the bridge wrote to `jArLen` itself. -/
theorem jniBulkRecvData_spec (vm : Vm) (t : Thread) (found : Method → Bool)
    (pucData : List UInt8) (iBufSize piRecved iTimeOut : Int) (reply : Nat → TransferReply)
    (s : Bridge) {r : BulkResult Int RecvResult}
    (run : jniBulkRecvData vm t found pucData iBufSize piRecved iTimeOut reply s = r) :
    r.call = none ∨ ∃ (jArLen : Ref) (byData : List UInt8) (java : State),
      r.call = some (vm.handle jArLen,
        recvData byData (vm.handle jArLen) [0, 0] iTimeOut reply java) ∧
      r.count = (if vm.pins jArLen then iBufSize else 0) ∧ r.ret = r.count := by
  subst run
  simp only [jniBulkRecvData]
  cases init : initUsbDriver t found s with
  | mk result ready =>
      by_cases ok : result = 1
      · simp only [ok]
        have read (pins : Bool) := congrArg (List.headD · 0)
          (getRegion_poke pins 1 (0 : Int) iBufSize piRecved)
        exact .inr ⟨_, _, _, rfl, read _, rfl⟩
      · exact .inl (by simp [ok])

/-- No call with a buffer does what the bridge promises. -/
theorem bulk_recv_never_refines (vm : Vm) (t : Thread) (found : Method → Bool)
    (pucData : List UInt8) (iBufSize piRecved iTimeOut : Int) (reply : Nat → TransferReply)
    (s : Bridge) (room : 0 < iBufSize) :
    ¬ Refines iBufSize (jniBulkRecvData vm t found pucData iBufSize piRecved iTimeOut reply s) := by
  intro refines
  obtain ⟨result, called, counted, _, code⟩ := refines
  have spec := jniBulkRecvData_spec vm t found pucData iBufSize piRecved iTimeOut reply s rfl
  cases spec with
  | inl none_ =>
      rw [none_] at called
      cases called
  | inr ran =>
      obtain ⟨jArLen, byData, java, call, count, ret⟩ := ran
      rw [call] at called
      obtain ⟨length, rfl⟩ := Prod.mk.inj (Option.some.inj called)
      -- the reference has to pass for the length that was asked for
      have java_count := recvData_count byData (vm.handle jArLen) iTimeOut reply java
        (by omega) [0]
      rw [ret, count] at code
      rw [count] at counted
      cases pinned : vm.pins jArLen with
      | true =>
          rw [pinned, if_pos rfl] at code
          cases java_count with
          | inl failed => omega
          | inr received => omega
      | false =>
          rw [pinned] at code counted
          cases java_count with
          | inl failed => simp at code; omega
          | inr received =>
              obtain ⟨_, n, positive, left_⟩ := received
              rw [left_] at counted
              simp at counted
              omega

/-! An open scanner that delivers four bytes to a thread that has set the environment. -/

def receiving : Bridge :=
  setJniEnv 0 true
    { Bridge.init with java := (openDevice 0 0 ⟨[scanner], true, some 7⟩ State.init).2 }

def fourBytes (vm : Vm) : BulkResult Int RecvResult :=
  jniBulkRecvData vm 0 (fun _ => true) [0, 0, 0, 0] 4 0 100 (fun _ => ⟨4, [1, 2, 3, 4]⟩) receiving

/-- Even with a reference whose bits happen to be the length. -/
theorem bulk_recv_never_refines_copying :
    0 < (4 : Int) ∧ ¬ Refines 4 (fourBytes ⟨fun _ => 4, fun _ => false⟩) :=
  ⟨by decide, bulk_recv_never_refines _ 0 _ _ 4 0 100 _ receiving (by decide)⟩

/-- `RecvData` takes the bits of the reference for its length. -/
theorem bulk_recv_asks_for_reference :
    ¬ Refines 4 (fourBytes ⟨fun _ => 21, fun _ => true⟩) := by
  intro refines
  obtain ⟨result, called, _⟩ := refines
  have asked : (fourBytes ⟨fun _ => 21, fun _ => true⟩).call.map Prod.fst = some 4 := by
    rw [called]
    rfl
  exact absurd asked (by decide)

end NdkThreadSample.CCallJava
