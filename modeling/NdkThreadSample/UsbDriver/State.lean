import NdkThreadSample.Library.CText
import Mathlib.Data.Nat.Digits.Defs

/-!
The static fields of `UsbDriver` and the part of Android they are used with:
the permission requests that wait for an answer, the registrations of
`mUsbReceiver` and the serial number of the next connection. `mUsbManager` is
true when the reference is set. `log` keeps the calls made on Android objects;
a call on a null `mUsbManager` is kept as such and leaves the method that makes
it. `InitContext` has been called.
-/

namespace NdkThreadSample.UsbDriver
open CText

structure UsbEndpoint where
  address : Nat
  maxPacketSize : Nat
  deriving DecidableEq, Repr

/-- An interface of the device with the given name, and its first two endpoints. -/
structure UsbInterface where
  deviceName : List Char
  endpoint0 : UsbEndpoint
  endpoint1 : UsbEndpoint
  deriving DecidableEq, Repr

structure UsbDevice where
  deviceName : List Char
  vendorId : UInt32
  productId : UInt32
  interface0 : UsbInterface
  deriving DecidableEq, Repr

structure UsbDeviceConnection where
  serial : Nat
  device : UsbDevice
  fileDescriptor : Int
  deriving DecidableEq, Repr

inductive UsbCall
  | requestPermission (device : UsbDevice)
  | registerReceiver
  | unregisterReceiver (registered : Bool)
  | openDevice (device : UsbDevice) (result : Option UsbDeviceConnection)
  | openDeviceOnNull (device : UsbDevice)
  | claimInterface (c : UsbDeviceConnection) (i : UsbInterface)
  | releaseInterface (c : UsbDeviceConnection) (i : UsbInterface)
  | close (c : UsbDeviceConnection)
  | bulkTransfer (c : UsbDeviceConnection) (endpoint : UsbEndpoint) (buffer : List UInt8)
      (length iTimeOut : Int)
  | controlTransfer (c : UsbDeviceConnection) (requestType req iOffset iIndex : Int)
      (buffer : List UInt8) (length iTimeOut : Int)
  deriving DecidableEq

structure State where
  mUsbManager : Bool
  mUsbDevice : Option UsbDevice
  mUsbInterface : Option UsbInterface
  outPoint : Option UsbEndpoint
  inPoint : Option UsbEndpoint
  mConnection : Option UsbDeviceConnection
  mUsbFd : Int
  bAttached : Bool
  mDevList : List (List Char)
  mListSize : Nat
  pending : List UsbDevice
  registrations : Nat
  nextSerial : Nat
  exited : Bool
  log : List UsbCall
  deriving DecidableEq

def State.init : State where
  mUsbManager := false
  mUsbDevice := none
  mUsbInterface := none
  outPoint := none
  inPoint := none
  mConnection := none
  mUsbFd := 0
  bAttached := false
  mDevList := []
  mListSize := 0
  pending := []
  registrations := 0
  nextSerial := 0
  exited := false
  log := []

def State.call (s : State) (u : UsbCall) : State := { s with log := s.log ++ [u] }

def hexUpper (d : Nat) : Char := if d < 10 then Char.ofNat (48 + d) else Char.ofNat (55 + d)

/-- `%04X`. -/
def format04X (n : UInt32) : List Char :=
  List.leftpad 4 '0' ((Nat.digits 16 n.toNat).reverse.map hexUpper)

/-- `String.format ("%04X:%04X", vendor, product)`. -/
def formatIds (vendor product : UInt32) : List Char :=
  format04X vendor ++ ':' :: format04X product

def UsbDevice.ids (device : UsbDevice) : List Char := formatIds device.vendorId device.productId

def scanner : UsbDevice where
  deviceName := ['u', 's', 'b', '1']
  vendorId := 0x05e3
  productId := 0x0102
  interface0 := ⟨['u', 's', 'b', '1'], ⟨0x81, 512⟩, ⟨0x02, 512⟩⟩

example : scanner.ids = ['0', '5', 'E', '3', ':', '0', '1', '0', '2'] := by decide

end NdkThreadSample.UsbDriver
