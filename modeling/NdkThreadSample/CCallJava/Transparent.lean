import NdkThreadSample.CCallJava.Receive

/-!
The send bridge and the two control bridges against the Java methods they call.
Each has asked for the elements of its array before the array is written, by
the bridge or by the Java method. A VM that hands out copies therefore writes
zeros over the array when the elements are released; the bridges are
transparent because all that they hand on is read before that.
-/

namespace NdkThreadSample.CCallJava
open CText ManagedArray UsbDriver

/-! Looking the methods up reaches neither the Java side nor the references to come. -/

theorem releaseUsbDriver_keeps (t : Thread) (s : Bridge) :
    (releaseUsbDriver t s).java = s.java ∧ (releaseUsbDriver t s).nextId = s.nextId := by
  simp only [releaseUsbDriver]
  cases s.jniEnv with
  | none => exact ⟨rfl, rfl⟩
  | some env => cases s.UsbDriverCCallJava <;> exact ⟨rfl, rfl⟩

theorem lookUp_keeps (t : Thread) (found : Method → Bool) (table : List (Method × Int))
    (s : Bridge) :
    (lookUp t found table s).2.java = s.java ∧ (lookUp t found table s).2.nextId = s.nextId := by
  induction table generalizing s with
  | nil => exact ⟨rfl, rfl⟩
  | cons entry table ih =>
      rw [lookUp]
      split
      · exact ih _
      · exact releaseUsbDriver_keeps t _

theorem initUsbDriver_keeps (t : Thread) (found : Method → Bool) (s : Bridge) :
    (initUsbDriver t found s).2.java = s.java ∧
      (initUsbDriver t found s).2.nextId = s.nextId := by
  simp only [initUsbDriver]
  cases s.jniEnv with
  | none => exact ⟨rfl, rfl⟩
  | some env => exact lookUp_keeps t found initTable s

theorem initUsbDriver_ready {t : Thread} {found : Method → Bool} {s : Bridge}
    (ok : (initUsbDriver t found s).1 = 1) :
    ∃ ready, initUsbDriver t found s = (1, ready) ∧ ready.java = s.java ∧
      ready.nextId = s.nextId :=
  ⟨(initUsbDriver t found s).2, Prod.ext ok rfl, initUsbDriver_keeps t found s⟩

/-! One bridge at a time. -/

/-- `seen` begins with the first `n` bytes of `pucData`. -/
def Sees (n : Int) (pucData seen : List UInt8) : Prop :=
  seen.take n.toNat = pucData.take n.toNat

/-- The first `n` bytes come from `buffer` and the others are as before. -/
structure Filled (n : Int) (buffer before after : List UInt8) : Prop where
  front : after.take n.toNat = buffer.take n.toNat
  rest : after.drop n.toNat = before.drop n.toNat
  inside : after.length = before.length

/-- What an array of `n + 1` bytes that last held `content` holds after its release. -/
def afterRelease (pinned : Bool) (n : Int) (content : List UInt8) : List UInt8 :=
  if pinned then content else List.replicate (n + 1).toNat 0

def SendTransparent (pinned : Bool) (pucData : List UInt8) (n iTimeOut transferred : Int)
    (java : State) (r : BulkResult (List UInt8 × Int × Int) SendResult) : Prop :=
  ∃ seen result, r.call = some ((seen, n, iTimeOut), result) ∧ Sees n pucData seen ∧
    result = sendData seen n [0, 0] iTimeOut transferred java ∧
    result.piWritten.head? = some r.count ∧ r.ret = result.ret ∧ r.pucData = pucData ∧
    r.jArData = some (afterRelease pinned n seen)

def ControlSendTransparent (pinned : Bool) (pucData : List UInt8)
    (n iOffset iIndex iTimeOut transferred : Int) (java : State)
    (r : BridgeResult (List UInt8 × Int × Int × Int × Int) ControlResult) : Prop :=
  ∃ seen result, r.call = some ((seen, n, iOffset, iIndex, iTimeOut), result) ∧
    Sees n pucData seen ∧ result = sendControl seen n iOffset iIndex iTimeOut transferred java ∧
    r.ret = result.ret ∧ r.pucData = pucData ∧ r.jArData = some (afterRelease pinned n seen)

def ControlRecvTransparent (pinned : Bool) (pucData : List UInt8)
    (n iOffset iIndex iTimeOut : Int) (reply : TransferReply) (java : State)
    (r : BridgeResult (Int × Int × Int × Int) ControlResult) : Prop :=
  ∃ result, r.call = some ((n, iOffset, iIndex, iTimeOut), result) ∧
    result = recvControl (List.replicate (n + 1).toNat 0) n iOffset iIndex iTimeOut reply java ∧
    Filled n result.buffer pucData r.pucData ∧ r.ret = result.ret ∧
    r.jArData = some (afterRelease pinned n result.buffer)

section
variable (vm : Vm) {t : Thread} {found : Method → Bool} {s : Bridge} {pucData : List UInt8}
  {n : Int}

theorem inBounds_spare {pins : Bool} (nonneg : 0 ≤ n) :
    inBounds (hand pins (n + 1).toNat (0 : UInt8)) n := by
  refine ⟨nonneg, ?_⟩
  rw [length_hand]
  omega

/-- The count is read back from a two-element array that `SendData` has left. -/
theorem sendData_count (bySendData : List UInt8) (iSendLen piWritten iTimeOut transferred : Int)
    (java : State) (array : Handed Int) :
    let left := (sendData bySendData iSendLen [0, 0] iTimeOut transferred java).piWritten
    left.head? = some ((getRegion (store array left) 1 [piWritten]).headD 0) := by
  unfold sendData
  split
  · dsimp only
    split <;> rfl
  · rfl

theorem jniBulkSendData_transparent (ok : (initUsbDriver t found s).1 = 1) (nonneg : 0 ≤ n)
    (fits : n.toNat ≤ pucData.length) (piWritten iTimeOut transferred : Int) :
    SendTransparent (vm.pins ⟨s.nextId, t⟩) pucData n iTimeOut transferred s.java
      (jniBulkSendData vm t found pucData n piWritten iTimeOut transferred s) := by
  obtain ⟨ready, init, java, nextId⟩ := initUsbDriver_ready ok
  rw [← java, ← nextId]
  simp only [jniBulkSendData, init]
  refine ⟨_, _, rfl, ?_, rfl, ?_, rfl, rfl, ?_⟩
  · exact setRegion_content _ (inBounds_spare nonneg) pucData fits
  · exact sendData_count _ n piWritten iTimeOut transferred _ _
  · exact congrArg some (release_setRegion_hand ..)

theorem jniControlSend_transparent (ok : (initUsbDriver t found s).1 = 1) (nonneg : 0 ≤ n)
    (fits : n.toNat ≤ pucData.length) (iOffset iIndex iTimeOut transferred : Int) :
    ControlSendTransparent (vm.pins ⟨s.nextId, t⟩) pucData n iOffset iIndex iTimeOut transferred
      s.java (jniControlSend vm t found pucData n iOffset iIndex iTimeOut transferred s) := by
  obtain ⟨ready, init, java, nextId⟩ := initUsbDriver_ready ok
  rw [← java, ← nextId]
  simp only [jniControlSend, init]
  refine ⟨_, _, rfl, ?_, rfl, rfl, rfl, ?_⟩
  · exact setRegion_content _ (inBounds_spare nonneg) pucData fits
  · exact congrArg some (release_setRegion_hand ..)

theorem le_length_recvControl (byRecvCMD : List UInt8) (iRecvLen iOffset iIndex iTimeOut : Int)
    (reply : TransferReply) (java : State) :
    byRecvCMD.length ≤
      (recvControl byRecvCMD iRecvLen iOffset iIndex iTimeOut reply java).buffer.length := by
  simp only [recvControl, controlTransfer]
  split
  · exact Nat.le_refl _
  · split <;> (rw [length_write]; exact Nat.le_max_left _ _)

theorem getRegion_filled (array : Handed UInt8) {content : List UInt8} (nonneg : 0 ≤ n)
    (room : n.toNat ≤ content.length) (fits : n.toNat ≤ pucData.length) :
    Filled n content pucData (getRegion (store array content) n pucData) := by
  rw [getRegion_eq (store array content) ⟨nonneg, room⟩]
  have hlen : (content.take n.toNat).length = n.toNat := List.length_take_of_le room
  have hself := take_write_self pucData (content.take n.toNat)
  rw [hlen] at hself
  refine ⟨hself, drop_write _ _ hlen.le, ?_⟩
  rw [store, length_write, hlen, Nat.max_eq_left fits]

theorem jniControlRecv_transparent (ok : (initUsbDriver t found s).1 = 1) (nonneg : 0 ≤ n)
    (fits : n.toNat ≤ pucData.length) (iOffset iIndex iTimeOut : Int) (reply : TransferReply) :
    ControlRecvTransparent (vm.pins ⟨s.nextId, t⟩) pucData n iOffset iIndex iTimeOut reply s.java
      (jniControlRecv vm t found pucData n iOffset iIndex iTimeOut reply s) := by
  obtain ⟨ready, init, java, nextId⟩ := initUsbDriver_ready ok
  rw [← java, ← nextId]
  simp only [jniControlRecv, init]
  refine ⟨_, rfl, rfl, getRegion_filled _ nonneg ?_ fits, rfl, ?_⟩
  · refine Nat.le_trans ?_ (le_length_recvControl ..)
    exact (inBounds_spare nonneg).2
  · exact congrArg some (release_store_hand ..)

end

/-- With a live environment the three bridges hand bytes, counts and results
through unchanged, whether the VM pins their arrays or copies them, although
the release puts zeros over a copied array. The bound on `n` keeps the length
of the array, `n + 1`, an `int`. -/
theorem bridges_transparent (vm : Vm) (t : Thread) (found : Method → Bool) (s : Bridge)
    (pucData : List UInt8) (n iOffset iIndex iTimeOut piWritten transferred : Int)
    (reply : TransferReply) (live : (initUsbDriver t found s).1 = 1)
    (range : 0 ≤ n ∧ n < 2 ^ 31 - 1) (fits : n.toNat ≤ pucData.length) :
    SendTransparent (vm.pins ⟨s.nextId, t⟩) pucData n iTimeOut transferred s.java
        (jniBulkSendData vm t found pucData n piWritten iTimeOut transferred s) ∧
      ControlSendTransparent (vm.pins ⟨s.nextId, t⟩) pucData n iOffset iIndex iTimeOut transferred
        s.java (jniControlSend vm t found pucData n iOffset iIndex iTimeOut transferred s) ∧
      ControlRecvTransparent (vm.pins ⟨s.nextId, t⟩) pucData n iOffset iIndex iTimeOut reply s.java
        (jniControlRecv vm t found pucData n iOffset iIndex iTimeOut reply s) :=
  ⟨jniBulkSendData_transparent vm live range.1 fits piWritten iTimeOut transferred,
    jniControlSend_transparent vm live range.1 fits iOffset iIndex iTimeOut transferred,
    jniControlRecv_transparent vm live range.1 fits iOffset iIndex iTimeOut reply⟩

/-- Three bytes of four through copied arrays. -/
theorem bridges_transparent_copying :
    let vm : Vm := ⟨fun _ => 0, fun _ => false⟩
    let found : Method → Bool := fun _ => true
    (initUsbDriver 0 found receiving).1 = 1 ∧
      SendTransparent false [1, 2, 3, 4] 3 100 3 receiving.java
        (jniBulkSendData vm 0 found [1, 2, 3, 4] 3 0 100 3 receiving) ∧
      ControlSendTransparent false [1, 2, 3, 4] 3 0 0 100 3 receiving.java
        (jniControlSend vm 0 found [1, 2, 3, 4] 3 0 0 100 3 receiving) ∧
      ControlRecvTransparent false [1, 2, 3, 4] 3 0 0 100 ⟨3, [7, 8, 9]⟩ receiving.java
        (jniControlRecv vm 0 found [1, 2, 3, 4] 3 0 0 100 ⟨3, [7, 8, 9]⟩ receiving) :=
  ⟨rfl, bridges_transparent _ 0 _ receiving [1, 2, 3, 4] 3 0 0 100 0 3 ⟨3, [7, 8, 9]⟩ rfl
    (by decide) (by decide)⟩

end NdkThreadSample.CCallJava
