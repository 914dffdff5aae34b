import VirtualMemory.Config.Basic
import VirtualMemory.Error
import VirtualMemory.Region
import VirtualMemory.Request

/-!
# Events

Operations report what they do as events.  An event has a severity, a channel and a text;
whether anyone listens has no influence on the operation.
-/

namespace VirtualMemory

/-- How much an event matters. -/
inductive Severity
  | trace
  | debug
  | info
  | warn
deriving DecidableEq

/-- The name of a severity. -/
def Severity.name : Severity → String
  | trace => "TRACE"
  | debug => "DEBUG"
  | info => "INFO"
  | warn => "WARN"

/-- The channel on which an event is reported. -/
inductive Channel
  /-- Decisions of the memory manager. -/
  | manager
  /-- Accesses through a caller. -/
  | access
  /-- Written states. -/
  | tables
deriving DecidableEq

/-- The name of a channel. -/
def Channel.name : Channel → String
  | manager => "vmm::mm"
  | access => "vmm::io"
  | tables => "vmm::pt"

/-- What an operation reports. -/
inductive Event
  /-- An address space was made. -/
  | spaceCreated (config : Config)
  /-- A request is about to be served. -/
  | requested (request : Request)
  /-- An access went to an address that belongs to no area. -/
  | outsideAreas (address : Nat)
  /-- A page came back from its swap slot. -/
  | swappedIn (page slot frame : Nat)
  /-- A page left its frame for a swap slot. -/
  | evicted (page frame slot : Nat)
  /-- A page of a range could not be mapped, and the pages before it are unmapped again. -/
  | rollingBack (page : Nat) (cause : Error)
  /-- A range meets an area. -/
  | areaMet (range : Region) (id : Nat) (area : Region)
  /-- The new part of an area could not be mapped. -/
  | growthUnmapped (range : Region) (cause : Error)
  /-- The heap could not grow. -/
  | heapGrowthRefused (bytes : Nat) (cause : Error)
  /-- A handle that was bound got another region. -/
  | rebound (handle : Nat) (previous : Region)
  /-- All pages were given back. -/
  | released (pages : Nat)
  /-- The state after an operation, in writing. -/
  | dumped (operation state : String)
  /-- A caller got a region. -/
  | allocated (pid address size handle : Nat)
  /-- A caller gave up a region. -/
  | freed (pid : Nat) (region : Region) (handle : Nat)
  /-- A caller read a byte. -/
  | byteRead (pid handle offset : Nat) (value : UInt8)
  /-- A caller wrote a byte. -/
  | byteWritten (pid address handle : Nat) (value : UInt8)
deriving DecidableEq

namespace Event

/-- The severity of an event. -/
def severity : Event → Severity
  | requested _ => .trace
  | released _ => .info
  | rollingBack .. | heapGrowthRefused .. | rebound .. => .warn
  | _ => .debug

/-- The channel of an event. -/
def channel : Event → Channel
  | allocated .. | freed .. | byteRead .. | byteWritten .. => .access
  | dumped .. => .tables
  | _ => .manager

/-- The name of a mode in event texts. -/
def modeText : Mode → String
  | .paged => "Paged"
  | .identity => "Identity"

/-- The text of an event. -/
def text : Event → String
  | spaceCreated c =>
    s!"address space: page {c.pageSize} heap {Text.hex c.initialHeapSize} " ++
      s!"handles {c.handleCapacity} {modeText c.mode}"
  | requested request => s!"memmap {request.text}"
  | outsideAreas address => s!"address {Text.hex address} lies outside every area"
  | swappedIn page slot frame => s!"swap-in page {page} from slot {slot} to frame {frame}"
  | evicted page frame slot => s!"evicted page {page} from frame {frame} to slot {slot}"
  | rollingBack page cause => s!"map of page {page} failed: {cause.message}; rolling back"
  | areaMet range id area =>
    s!"range {Text.hex range.start}..{Text.hex range.stop} hits area {id} {area.text}"
  | growthUnmapped range cause =>
    s!"mapping {Text.hex range.start}..{Text.hex range.stop} failed: {cause.message}"
  | heapGrowthRefused bytes cause => s!"heap growth by {bytes} bytes refused: {cause.message}"
  | rebound handle previous =>
    s!"handle {handle} rebound; {previous.text} returned to the free list"
  | released pages => s!"released {pages} page(s)"
  | dumped operation state => s!"after {operation}:\n{state}"
  | allocated pid address size handle =>
    s!"pid={pid} alloc addr={Text.hex address} size={size} handle={handle}"
  | freed pid region handle =>
    s!"pid={pid} free addr={Text.hex region.start} size={region.length} handle={handle}"
  | byteRead pid handle offset value =>
    s!"pid={pid} read handle={handle} offset={offset} value={Text.hexByte value}"
  | byteWritten pid address handle value =>
    s!"pid={pid} write addr={Text.hex address} handle={handle} value={Text.hexByte value}"

end Event

end VirtualMemory
