import CameraHotplug.Text.Utf8

/-!
The part of the kernel's interface that asks video nodes what they are: capability bits, the queue
that cameras capture to, the two requests, and the texts in fields of fixed size.
-/

namespace CameraHotplug

namespace Kernel

def videoCapture : UInt32 := 0x00000001
def videoOutput : UInt32 := 0x00000002
def videoCaptureMultiplanar : UInt32 := 0x00001000
def memoryToMemory : UInt32 := 0x00008000
def metadataCapture : UInt32 := 0x00800000

/-- Set when the capabilities of the node itself are given. -/
def deviceCapabilities : UInt32 := 0x80000000

def anyCapture : UInt32 := videoCapture ||| videoCaptureMultiplanar

/-- The queue of single-planar captured frames. -/
def captureQueue : UInt32 := 1

def capabilitySize : UInt32 := 104
def formatSize : UInt32 := 64

/-- Requests to a device carry their direction, the size of their argument, a letter and a
number. -/
def request (direction size letter number : UInt32) : UInt32 :=
  direction <<< 30 ||| size <<< 16 ||| letter <<< 8 ||| number

def readDirection : UInt32 := 2
def writeDirection : UInt32 := 1
def videoLetter : UInt32 := 0x56

def queryCapability : UInt32 :=
  request readDirection capabilitySize videoLetter 0

def enumerateFormats : UInt32 :=
  request (readDirection ||| writeDirection) formatSize videoLetter 2

/-- The text of a field of fixed size ends before its first zero byte. -/
def fieldText (bytes : List UInt8) : String :=
  String.ofList (Utf8.lossy (bytes.takeWhile (· ≠ 0)))

end Kernel

end CameraHotplug
