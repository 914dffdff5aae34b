import VirtualMemory.Space.Basic

/-!
# Written states

The written form of an address space: its areas with their free regions, the bound handles, the
resident pages and the mapped pages, one line each.
-/

namespace VirtualMemory

/-- The written form of a list of regions. -/
def Region.listText (regions : List Region) : String :=
  " ".intercalate (regions.map Region.text)

/-- The three lines of an area. -/
def Area.dump (c : Config) (a : Area) : String :=
  let i := PageIndices.ofAddress c.offsetBits a.start
  s!"area {a.id} {a.range.text} brk {Text.hex a.brk}\n" ++
    s!"  free: {Region.listText a.free}\n" ++
    s!"  start pgd {i.pgd} p4d {i.p4d} pud {i.pud} pmd {i.pmd} pt {i.pt}\n"

/-- The line of bound handles. -/
def HandleTable.dump (t : HandleTable) : String :=
  let bindings := t.live.map fun (handle, r) => s!"{handle}={r.text}"
  "live: " ++ " ".intercalate bindings ++ "\n"

/-- The line of resident pages, oldest first. -/
def Residency.dump (r : Residency) : String :=
  "fifo: [" ++ ", ".intercalate (r.pages.map toString) ++ "]\n"

/-- Where a page is, in words; nothing for a page that is nowhere. -/
def Entry.State.text? : Entry.State → Option String
  | .unmapped => none
  | .resident frame dirty => some (s!"frame {frame}" ++ if dirty then " dirty" else "")
  | .swapped device slot => some s!"swap {device}:{slot}"

/-- The line of a mapped page; nothing for a page that is nowhere. -/
def Entry.dump (page : Nat) (e : Entry) : String :=
  match e.state.text? with
  | none => ""
  | some place =>
    let path := ":".intercalate ((PageIndices.ofPage page).toList.map (Text.hexDigits 3))
    s!"  page {Text.hex page} [{path}] {place}\n"

/-- The written form of a space. -/
def Space.dump {c : Config} (s : Space c) : String :=
  String.join (s.areas.areas.map (Area.dump c)) ++ s.handles.dump ++ s.paging.residency.dump ++
    String.join (s.paging.table.entries.map fun (page, e) => Entry.dump page e)

end VirtualMemory
