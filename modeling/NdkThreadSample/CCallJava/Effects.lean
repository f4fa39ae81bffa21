import NdkThreadSample.CCallJava.Operations

/-!
What a bridge function does to the environment it runs in. After a successful
`InitUsbDriver` its body invokes JNI functions on its thread, makes local
references and deletes only its own (`Body`); it ends in `ReleaseUsbDriver`.
-/

namespace NdkThreadSample.CCallJava
variable {t : Thread} {s s' : Bridge}

inductive Body (t : Thread) (s : Bridge) : Bridge → Prop
  | start : Body t s s
  | invoke {s' : Bridge} (function : JniFunction) : Body t s s' → Body t s (s'.invoke t function)
  | java {s' : Bridge} (java : UsbDriver.State) : Body t s s' → Body t s { s' with java := java }
  | newLocal {s' : Bridge} : Body t s s' → Body t s (s'.newLocal t).2
  | deleteLocalRef {s' : Bridge} (r : Ref) (own : s.nextId ≤ r.id) :
      Body t s s' → Body t s (s'.deleteLocalRef t r)

theorem Body.nextId_le (h : Body t s s') : s.nextId ≤ s'.nextId := by
  induction h with
  | start => exact Nat.le_refl _
  | invoke _ _ ih | java _ _ ih | deleteLocalRef _ _ _ ih => exact ih
  | newLocal _ ih => exact Nat.le_succ_of_le ih

theorem Body.newArray {α : Type} (h : Body t s s') (vm : Vm) (make get : JniFunction) (zero : α)
    (length : Int) : Body t s (newArray vm t make get zero length s').2 :=
  ((h.invoke make).newLocal).invoke get

/-- The reference of a new array is the function's own. -/
theorem Body.newArray_own {α : Type} (h : Body t s s') (vm : Vm) (make get : JniFunction)
    (zero : α) (length : Int) :
    s.nextId ≤ (CCallJava.newArray vm t make get zero length s').1.ref.id :=
  h.nextId_le

theorem Body.newByteArray (h : Body t s s') (vm : Vm) (length : Int) :
    Body t s (newByteArray vm t length s').2 ∧
      s.nextId ≤ (CCallJava.newByteArray vm t length s').1.ref.id :=
  ⟨h.newArray .., h.newArray_own ..⟩

theorem Body.newIntArray (h : Body t s s') (vm : Vm) (length : Int) :
    Body t s (newIntArray vm t length s').2 ∧
      s.nextId ≤ (CCallJava.newIntArray vm t length s').1.ref.id :=
  ⟨h.newArray .., h.newArray_own ..⟩

/-- Its elements are released and its reference is deleted. -/
theorem Body.dropArray {r : Ref} (h : Body t s s') (release : JniFunction)
    (own : s.nextId ≤ r.id) : Body t s ((s'.invoke t release).deleteLocalRef t r) :=
  (h.invoke release).deleteLocalRef r own

/-- A function that `InitUsbDriver` refuses does no more; any other runs its
body and then `ReleaseUsbDriver`. -/
def Shape (t : Thread) (found : Method → Bool) (s s' : Bridge) : Prop :=
  ((initUsbDriver t found s).1 ≠ 1 ∧ s' = (initUsbDriver t found s).2) ∨
    ((initUsbDriver t found s).1 = 1 ∧
      ∃ last, Body t (initUsbDriver t found s).2 last ∧ s' = releaseUsbDriver t last)

theorem shape_of_run {found : Method → Bool}
    (refused : (initUsbDriver t found s).1 ≠ 1 → s' = (initUsbDriver t found s).2)
    (ran : ∀ ready, initUsbDriver t found s = (1, ready) →
      ∃ last, Body t ready last ∧ s' = releaseUsbDriver t last) : Shape t found s s' := by
  by_cases ok : (initUsbDriver t found s).1 = 1
  · exact .inr ⟨ok, ran _ (Prod.ext ok rfl)⟩
  · exact .inl ⟨ok, refused ok⟩

theorem jniOpenDevice_shape (found : Method → Bool) (iVid iPid : Int) (env : UsbDriver.OpenEnv)
    (s : Bridge) : Shape t found s (jniOpenDevice t found iVid iPid env s).2 := by
  apply shape_of_run
  · intro no
    simp [jniOpenDevice, no]
  · intro ready init
    simp only [jniOpenDevice, init]
    exact ⟨_, (Body.start.invoke _).java _, rfl⟩

theorem jniCloseDevice_shape (found : Method → Bool) (s : Bridge) :
    Shape t found s (jniCloseDevice t found s).2 := by
  apply shape_of_run
  · intro no
    simp [jniCloseDevice, no]
  · intro ready init
    simp only [jniCloseDevice, init]
    exact ⟨_, (Body.start.invoke _).java _, rfl⟩

theorem jniBulkSendData_shape (vm : Vm) (found : Method → Bool) (pucData : List UInt8)
    (iSendLen piWritten iTimeOut transferred : Int) (s : Bridge) :
    Shape t found s
      (jniBulkSendData vm t found pucData iSendLen piWritten iTimeOut transferred s).state := by
  apply shape_of_run
  · intro no
    simp [jniBulkSendData, no]
  · intro ready init
    simp only [jniBulkSendData, init]
    obtain ⟨data, dataOwn⟩ := (Body.start (t := t) (s := ready)).newByteArray vm (iSendLen + 1)
    obtain ⟨written, writtenOwn⟩ := data.newIntArray vm 2
    have called (java : UsbDriver.State) := (((written.invoke .setByteArrayRegion).invoke
      (.callStaticIntMethod .sendData)).java java).invoke .getIntArrayRegion
    exact ⟨_, ((called _).dropArray .releaseByteArrayElements dataOwn).dropArray
      .releaseIntArrayElements writtenOwn, rfl⟩

theorem jniBulkRecvData_shape (vm : Vm) (found : Method → Bool) (pucData : List UInt8)
    (iBufSize piRecved iTimeOut : Int) (reply : Nat → UsbDriver.TransferReply) (s : Bridge) :
    Shape t found s
      (jniBulkRecvData vm t found pucData iBufSize piRecved iTimeOut reply s).state := by
  apply shape_of_run
  · intro no
    simp [jniBulkRecvData, no]
  · intro ready init
    simp only [jniBulkRecvData, init]
    obtain ⟨data, dataOwn⟩ := (Body.start (t := t) (s := ready)).newByteArray vm iBufSize
    obtain ⟨len, lenOwn⟩ := data.newIntArray vm 2
    obtain ⟨recved, recvedOwn⟩ := len.newIntArray vm 2
    have called (java : UsbDriver.State) :=
      (((recved.invoke (.callStaticIntMethod .recvData)).java java).invoke
        .getIntArrayRegion).invoke .getByteArrayRegion
    exact ⟨_, (((called _).dropArray .releaseByteArrayElements dataOwn).dropArray
      .releaseIntArrayElements lenOwn).dropArray .releaseIntArrayElements recvedOwn, rfl⟩

theorem jniControlSend_shape (vm : Vm) (found : Method → Bool) (pucData : List UInt8)
    (iSendLen iOffset iIndex iTimeOut transferred : Int) (s : Bridge) :
    Shape t found s
      (jniControlSend vm t found pucData iSendLen iOffset iIndex iTimeOut transferred s).state := by
  apply shape_of_run
  · intro no
    simp [jniControlSend, no]
  · intro ready init
    simp only [jniControlSend, init]
    obtain ⟨data, dataOwn⟩ := (Body.start (t := t) (s := ready)).newByteArray vm (iSendLen + 1)
    have called (java : UsbDriver.State) := ((data.invoke .setByteArrayRegion).invoke
      (.callStaticIntMethod .sendControl)).java java
    exact ⟨_, (called _).dropArray .releaseByteArrayElements dataOwn, rfl⟩

theorem jniControlRecv_shape (vm : Vm) (found : Method → Bool) (pucData : List UInt8)
    (iRecvLen iOffset iIndex iTimeOut : Int) (reply : UsbDriver.TransferReply) (s : Bridge) :
    Shape t found s
      (jniControlRecv vm t found pucData iRecvLen iOffset iIndex iTimeOut reply s).state := by
  apply shape_of_run
  · intro no
    simp [jniControlRecv, no]
  · intro ready init
    simp only [jniControlRecv, init]
    obtain ⟨data, dataOwn⟩ := (Body.start (t := t) (s := ready)).newByteArray vm (iRecvLen + 1)
    have called (java : UsbDriver.State) :=
      ((data.invoke (.callStaticIntMethod .recvControl)).java java).invoke .getByteArrayRegion
    exact ⟨_, (called _).dropArray .releaseByteArrayElements dataOwn, rfl⟩

theorem run_shape (vm : Vm) (found : Method → Bool) (call : JniCall) (s : Bridge) :
    Shape t found s (call.run vm t found s) := by
  cases call with
  | openDevice iVid iPid env => exact jniOpenDevice_shape ..
  | closeDevice => exact jniCloseDevice_shape ..
  | bulkSendData pucData iSendLen piWritten iTimeOut transferred =>
      exact jniBulkSendData_shape ..
  | bulkRecvData pucData iBufSize piRecved iTimeOut reply => exact jniBulkRecvData_shape ..
  | controlSend pucData iSendLen iOffset iIndex iTimeOut transferred =>
      exact jniControlSend_shape ..
  | controlRecv pucData iRecvLen iOffset iIndex iTimeOut reply => exact jniControlRecv_shape ..

/-! The record of uses only grows. -/

theorem Body.grows (h : Body t s s') : s.uses <+: s'.uses := by
  induction h with
  | start => exact List.prefix_rfl
  | invoke _ _ ih => exact ih.trans (List.prefix_append _ _)
  | java _ _ ih => exact ih
  | newLocal _ ih => exact ih
  | deleteLocalRef _ _ _ ih => exact ih.trans (List.prefix_append _ _)

theorem releaseUsbDriver_grows (t : Thread) (s : Bridge) :
    s.uses <+: (releaseUsbDriver t s).uses := by
  simp only [releaseUsbDriver]
  cases s.jniEnv with
  | none => exact List.prefix_rfl
  | some env =>
      cases s.UsbDriverCCallJava with
      | none => exact List.prefix_rfl
      | some r => exact List.prefix_append _ _

theorem lookUp_grows (t : Thread) (found : Method → Bool) (table : List (Method × Int))
    (s : Bridge) : s.uses <+: (lookUp t found table s).2.uses := by
  induction table generalizing s with
  | nil => exact List.prefix_rfl
  | cons entry table ih =>
      have asked : s.uses <+:
          (s.invoke t (.getStaticMethodID entry.1.key.1 entry.1.key.2)).uses :=
        List.prefix_append _ _
      rw [lookUp]
      split
      · exact asked.trans (ih _)
      · exact asked.trans (releaseUsbDriver_grows t _)

theorem initUsbDriver_grows (t : Thread) (found : Method → Bool) (s : Bridge) :
    s.uses <+: (initUsbDriver t found s).2.uses := by
  simp only [initUsbDriver]
  cases s.jniEnv with
  | none => exact List.prefix_rfl
  | some env => exact lookUp_grows t found initTable s

theorem Shape.grows {found : Method → Bool} (h : Shape t found s s') :
    (initUsbDriver t found s).2.uses <+: s'.uses := by
  cases h with
  | inl refused => rw [refused.2]
  | inr ran =>
      obtain ⟨_, last, body, rfl⟩ := ran
      exact body.grows.trans (releaseUsbDriver_grows t last)

theorem setJniEnv_grows (t : Thread) (found : Bool) (s : Bridge) :
    s.uses <+: (setJniEnv t found s).uses := by
  cases found <;> exact List.prefix_append _ _

end NdkThreadSample.CCallJava
