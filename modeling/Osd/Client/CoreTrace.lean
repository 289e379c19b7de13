import Osd.Client.Events
import Osd.Client.FunctionTable

/-!
# Core traces with function names

`print_with_elfdata` of the core trace logger looks up the functions of a trace
event in the table of `osd_coretracelogger_set_elf`.  Its loops for a return
start behind the first entry and end one entry behind the table.
-/

namespace Osd.Client

open Osd.Foundation

/-! ## The log -/

inductive TraceLine where
  | changeMode (timestamp : Nat) (mode : Word)
  | enter (timestamp : Nat) (name : String)
  | leave (timestamp : Nat) (name : String)
  deriving DecidableEq

/-- What becomes of a comparison with the address one entry behind the
table. -/
inductive Behind where
  | fault
  | noMatch

def Behind.read : Behind → Outcome Bool
  | .fault => .error .outOfBounds
  | .noMatch => .ok false

def addrMeets (behind : Behind) (funcs : List ElfFunctionTable) (f : Nat)
    (p : Nat → Bool) : Outcome Bool :=
  match funcs[f]? with
  | none => behind.read
  | some entry => .ok (p entry.addr.toNat)

def funcName (funcs : List ElfFunctionTable) (f : Nat) : Outcome String :=
  match funcs[f]? with
  | none => .error .outOfBounds
  | some entry => .ok entry.name

def printCall (behind : Behind) (funcs : List ElfFunctionTable)
    (event : OsdCtmEvent) : Nat → Nat → Outcome (List TraceLine)
  | 0, _ => .ok []
  | count + 1, f => do
      let entered ← addrMeets behind funcs f (· = event.npc)
      if entered then do
        let name ← funcName funcs f
        .ok [.enter event.timestamp name]
      else printCall behind funcs event count (f + 1)

/-- The first loop for a return.  Each entry has a string of its own, so that
the pointer `to` is known by the index of its entry. -/
def findTo (behind : Behind) (funcs : List ElfFunctionTable) (npc : Nat) :
    Nat → Nat → Option Nat → Outcome (Option Nat)
  | 0, _, dest => .ok dest
  | count + 1, f, dest => do
      let above ← addrMeets behind funcs f (npc < ·)
      if above then .ok (some (f - 1))
      else if f = funcs.length then
        findTo behind funcs npc count (f + 1) (some (funcs.length - 1))
      else findTo behind funcs npc count (f + 1) dest

def printLeave (funcs : List ElfFunctionTable) (event : OsdCtmEvent)
    (dest : Option Nat) (f : Nat) : Outcome (List TraceLine) := do
  let name ← funcName funcs f
  .ok (if some f ≠ dest then [.leave event.timestamp name] else [])

/-- The second loop for a return. -/
def printReturn (behind : Behind) (funcs : List ElfFunctionTable)
    (event : OsdCtmEvent) (dest : Option Nat) :
    Nat → Nat → Outcome (List TraceLine)
  | 0, _ => .ok []
  | count + 1, f => do
      let entered ← addrMeets behind funcs f (· = event.npc)
      if entered then do
        let name ← funcName funcs f
        .ok [.enter event.timestamp name]
      else do
        let above ← addrMeets behind funcs f (event.pc < ·)
        if above then printLeave funcs event dest (f - 1)
        else if f = funcs.length then do
          let lines ← printLeave funcs event dest (funcs.length - 1)
          let more ← printReturn behind funcs event dest count (f + 1)
          .ok (lines ++ more)
        else printReturn behind funcs event dest count (f + 1)

def printWithElfdata (behind : Behind) (ctx : OsdCoretraceloggerCtx)
    (event : OsdCtmEvent) : Outcome (List TraceLine) :=
  match ctx.funcs with
  | none => .error .assertion
  | some table =>
      let funcs := table.toList
      if event.isModechange then
        .ok [.changeMode event.timestamp event.mode]
      else if event.isCall then
        printCall behind funcs event ctx.numFuncs 0
      else if event.isRet then do
        let dest ← findTo behind funcs event.npc ctx.numFuncs 1 none
        printReturn behind funcs event dest ctx.numFuncs 1
      else .ok []

/-! ## What a return should print -/

/-- The last function that does not start behind the address. -/
def functionAt (funcs : List ElfFunctionTable) (addr : Nat) :
    Option ElfFunctionTable :=
  (funcs.filter (·.addr.toNat ≤ addr)).getLast?

def returnLines (funcs : List ElfFunctionTable) (event : OsdCtmEvent) :
    List TraceLine :=
  match funcs.find? (·.addr.toNat = event.npc) with
  | some entry => [.enter event.timestamp entry.name]
  | none =>
      if functionAt funcs event.pc = functionAt funcs event.npc then []
      else
        (functionAt funcs event.pc).toList.map
          fun entry => .leave event.timestamp entry.name

def Ascending (funcs : List ElfFunctionTable) : Prop :=
  funcs.Pairwise fun first second => first.addr.toNat < second.addr.toNat

structure OsdCtmEvent.OnlyReturn (event : OsdCtmEvent) : Prop where
  isRet : event.isRet = true
  isCall : event.isCall = false
  isModechange : event.isModechange = false

/-- A function that is entered at its first instruction is found before the
scan gets behind the program counter. -/
def EntrySeen (first : ElfFunctionTable) (rest : List ElfFunctionTable)
    (event : OsdCtmEvent) : Prop :=
  (∃ entry ∈ first :: rest, entry.addr.toNat = event.npc) →
    first.addr.toNat ≠ event.npc ∧
      ∀ other ∈ first :: rest,
        ¬(event.pc < other.addr.toNat ∧ other.addr.toNat < event.npc)

/-! ## The loops -/

section Loops

variable (behind : Behind) (front after : List ElfFunctionTable)
  {before : List ElfFunctionTable} (entry : ElfFunctionTable)
  {event : OsdCtmEvent}

theorem addrMeets_entry (p : Nat → Bool) :
    addrMeets behind (front ++ entry :: after) front.length p =
      .ok (p entry.addr.toNat) := by
  simp [addrMeets]

theorem addrMeets_behind (funcs : List ElfFunctionTable) (p : Nat → Bool) :
    addrMeets behind funcs funcs.length p = behind.read := by
  simp [addrMeets]

theorem funcName_entry :
    funcName (front ++ entry :: after) front.length = .ok entry.name := by
  simp [funcName]

theorem entry_inside :
    front.length ≠ (front ++ entry :: after).length := by
  simp only [List.length_append, List.length_cons]
  omega

theorem findTo_skip {npc : Nat} (count : Nat) (dest : Option Nat)
    (h : ∀ entry ∈ before, entry.addr.toNat ≤ npc) :
    findTo behind (front ++ (before ++ after)) npc (before.length + count)
        front.length dest =
      findTo behind (front ++ (before ++ after)) npc count
        (front.length + before.length) dest := by
  induction before generalizing front with
  | nil => simp
  | cons entry before ih =>
      have hentry := h entry List.mem_cons_self
      have hinside := entry_inside front (before ++ after) entry
      have hrest := ih (front ++ [entry])
        fun other hother => h other (List.mem_cons_of_mem _ hother)
      rw [List.length_cons, Nat.add_right_comm, findTo, List.cons_append,
        addrMeets_entry, ok_bind, if_neg (by simpa using hentry),
        if_neg hinside]
      simp only [List.append_assoc, List.singleton_append,
        List.length_append, List.length_singleton] at hrest
      rw [hrest, Nat.add_right_comm, Nat.add_assoc]

theorem printReturn_skip (count : Nat) (dest : Option Nat)
    (h : ∀ entry ∈ before,
      entry.addr.toNat ≠ event.npc ∧ entry.addr.toNat ≤ event.pc) :
    printReturn behind (front ++ (before ++ after)) event dest
        (before.length + count) front.length =
      printReturn behind (front ++ (before ++ after)) event dest count
        (front.length + before.length) := by
  induction before generalizing front with
  | nil => simp
  | cons entry before ih =>
      obtain ⟨hnpc, hpc⟩ := h entry List.mem_cons_self
      have hinside := entry_inside front (before ++ after) entry
      have hrest := ih (front ++ [entry])
        fun other hother => h other (List.mem_cons_of_mem _ hother)
      rw [List.length_cons, Nat.add_right_comm, printReturn,
        List.cons_append, addrMeets_entry, addrMeets_entry, ok_bind,
        if_neg (by simpa using hnpc), ok_bind, if_neg (by simpa using hpc),
        if_neg hinside]
      simp only [List.append_assoc, List.singleton_append,
        List.length_append, List.length_singleton] at hrest
      rw [hrest, Nat.add_right_comm, Nat.add_assoc]

end Loops

/-! ## What the loops find -/

section Scans

variable (behind : Behind) (first : ElfFunctionTable)
  {entry : ElfFunctionTable} {before after rest : List ElfFunctionTable}
  {event : OsdCtmEvent} (dest : Option Nat)

/-- A scan passes all entries, or stops at the first one that meets `p`. -/
theorem passes_or_stops (p : ElfFunctionTable → Prop) [DecidablePred p]
    (funcs : List ElfFunctionTable) :
    (∀ entry ∈ funcs, ¬p entry) ∨
      ∃ before stop after, funcs = before ++ stop :: after ∧
        (∀ entry ∈ before, ¬p entry) ∧ p stop := by
  cases hstop : funcs.find? fun entry => p entry with
  | none => exact .inl (by simpa using List.find?_eq_none.mp hstop)
  | some stop =>
      obtain ⟨hmeets, before, after, hsplit, hbefore⟩ :=
        List.find?_eq_some_iff_append.mp hstop
      exact .inr ⟨before, stop, after, hsplit, by simpa using hbefore,
        by simpa using hmeets⟩

theorem stops {p : ElfFunctionTable → Prop} [DecidablePred p]
    {funcs : List ElfFunctionTable} (h : ∃ entry ∈ funcs, p entry) :
    ∃ before stop after, funcs = before ++ stop :: after ∧
      (∀ entry ∈ before, ¬p entry) ∧ p stop := by
  refine (passes_or_stops p funcs).resolve_left fun hnone => ?_
  obtain ⟨entry, hentry, hmeets⟩ := h
  exact hnone entry hentry hmeets

theorem findTo_above {npc : Nat}
    (hbefore : ∀ entry ∈ before, entry.addr.toNat ≤ npc)
    (hentry : npc < entry.addr.toNat) :
    findTo behind (first :: (before ++ entry :: after)) npc
        ((before ++ entry :: after).length + 1) 1 none =
      .ok (some before.length) := by
  have hskip := findTo_skip behind [first] (entry :: after)
    (after.length + 2) none hbefore
  have hat := addrMeets_entry behind (first :: before) after entry (npc < ·)
  simp only [List.length_cons, List.length_nil, List.cons_append,
    List.nil_append, Nat.zero_add] at hskip hat
  rw [show (before ++ entry :: after).length + 1 =
      before.length + (after.length + 2) by simp; omega, hskip, findTo,
    Nat.add_comm 1, hat, ok_bind, if_pos (by simpa using hentry),
    Nat.add_sub_cancel]

theorem findTo_last {npc : Nat}
    (hrest : ∀ entry ∈ rest, entry.addr.toNat ≤ npc) :
    findTo behind (first :: rest) npc (rest.length + 1) 1 none =
      (behind.read >>= fun _ => .ok (some rest.length)) := by
  have hskip := findTo_skip behind [first] [] 1 none hrest
  have hat := addrMeets_behind behind (first :: rest) (npc < ·)
  simp only [List.length_cons, List.length_nil, List.cons_append,
    List.nil_append, List.append_nil, Nat.zero_add] at hskip hat
  rw [hskip, findTo, Nat.add_comm 1, hat]
  cases behind with
  | fault => rfl
  | noMatch => simp [Behind.read, findTo]

theorem printReturn_enter
    (hbefore : ∀ entry ∈ before,
      entry.addr.toNat ≠ event.npc ∧ entry.addr.toNat ≤ event.pc)
    (hentry : entry.addr.toNat = event.npc) :
    printReturn behind (first :: (before ++ entry :: after)) event dest
        ((before ++ entry :: after).length + 1) 1 =
      .ok [.enter event.timestamp entry.name] := by
  have hskip := printReturn_skip behind [first] (entry :: after)
    (after.length + 2) dest hbefore
  have hat := addrMeets_entry behind (first :: before) after entry
    (· = event.npc)
  have hname := funcName_entry (first :: before) after entry
  simp only [List.length_cons, List.length_nil, List.cons_append,
    List.nil_append, Nat.zero_add] at hskip hat hname
  rw [show (before ++ entry :: after).length + 1 =
      before.length + (after.length + 2) by simp; omega, hskip, printReturn,
    Nat.add_comm 1, hat, ok_bind, if_pos (by simpa using hentry), hname,
    ok_bind]

theorem printReturn_above
    (hbefore : ∀ entry ∈ before,
      entry.addr.toNat ≠ event.npc ∧ entry.addr.toNat ≤ event.pc)
    (hnpc : entry.addr.toNat ≠ event.npc)
    (hpc : event.pc < entry.addr.toNat) :
    printReturn behind (first :: (before ++ entry :: after)) event dest
        ((before ++ entry :: after).length + 1) 1 =
      printLeave (first :: (before ++ entry :: after)) event dest
        before.length := by
  have hskip := printReturn_skip behind [first] (entry :: after)
    (after.length + 2) dest hbefore
  have hat := addrMeets_entry behind (first :: before) after entry
  simp only [List.length_cons, List.length_nil, List.cons_append,
    List.nil_append, Nat.zero_add] at hskip hat
  rw [show (before ++ entry :: after).length + 1 =
      before.length + (after.length + 2) by simp; omega, hskip, printReturn,
    Nat.add_comm 1, hat, ok_bind, if_neg (by simpa using hnpc), hat,
    ok_bind, if_pos (by simpa using hpc), Nat.add_sub_cancel]

theorem printReturn_last
    (hrest : ∀ entry ∈ rest,
      entry.addr.toNat ≠ event.npc ∧ entry.addr.toNat ≤ event.pc) :
    printReturn behind (first :: rest) event dest (rest.length + 1) 1 =
      (behind.read >>= fun _ =>
        printLeave (first :: rest) event dest rest.length) := by
  have hskip := printReturn_skip behind [first] [] 1 dest hrest
  have hat := addrMeets_behind behind (first :: rest)
  simp only [List.length_cons, List.length_nil, List.cons_append,
    List.nil_append, List.append_nil, Nat.zero_add] at hskip hat
  rw [hskip, printReturn, Nat.add_comm 1, hat]
  cases behind with
  | fault => rfl
  | noMatch =>
      simp only [Behind.read, ok_bind, Bool.false_eq_true, if_false, hat,
        List.length_cons, if_true, Nat.add_sub_cancel, printReturn,
        List.append_nil]
      exact bind_pure _

end Scans

/-! ## The right function -/

section Attribution

variable {behind : Behind} {first stop : ElfFunctionTable}
  {before after rest : List ElfFunctionTable} {event : OsdCtmEvent}

theorem functionAt_split (before after : List ElfFunctionTable)
    {addr : Nat} (hfirst : first.addr.toNat ≤ addr)
    (hbefore : ∀ entry ∈ before, entry.addr.toNat ≤ addr)
    (hafter : ∀ entry ∈ after, addr < entry.addr.toNat) :
    functionAt (first :: (before ++ after)) addr =
      (first :: (before ++ after))[before.length]? := by
  have hfront : (first :: before).filter (·.addr.toNat ≤ addr) =
      first :: before :=
    List.filter_eq_self.mpr (by simpa using ⟨hfirst, hbefore⟩)
  have hback : after.filter (·.addr.toNat ≤ addr) = [] :=
    List.filter_eq_nil_iff.mpr (by simpa using hafter)
  rw [functionAt, ← List.cons_append, List.filter_append, hfront, hback,
    List.append_nil, List.getLast?_eq_getElem?,
    List.getElem?_append_left (by simp)]
  rfl

theorem Ascending.split (h : Ascending rest) (addr : Nat) :
    ∃ before after, rest = before ++ after ∧
      (∀ entry ∈ before, entry.addr.toNat ≤ addr) ∧
      ∀ entry ∈ after, addr < entry.addr.toNat := by
  induction rest with
  | nil => exact ⟨[], [], rfl, by simp, by simp⟩
  | cons entry rest ih =>
      obtain ⟨habove, hrest⟩ := List.pairwise_cons.mp h
      by_cases hentry : entry.addr.toNat ≤ addr
      · obtain ⟨before, after, rfl, hbefore, hafter⟩ := ih hrest
        exact ⟨entry :: before, after, rfl, by simpa using ⟨hentry, hbefore⟩,
          hafter⟩
      · refine ⟨[], entry :: rest, rfl, by simp, ?_⟩
        intro other hother
        rcases List.mem_cons.mp hother with rfl | hother
        · omega
        · have := habove other hother
          omega

theorem Ascending.nodup_addr {funcs : List ElfFunctionTable}
    (h : Ascending funcs) : (funcs.map (·.addr.toNat)).Nodup :=
  List.pairwise_map.mpr (h.imp Nat.ne_of_lt)

theorem Ascending.nodup {funcs : List ElfFunctionTable}
    (h : Ascending funcs) : funcs.Nodup :=
  h.nodup_addr.of_map

theorem findTo_noMatch {npc : Nat}
    (hbefore : ∀ entry ∈ before, entry.addr.toNat ≤ npc)
    (hafter : ∀ entry ∈ after, npc < entry.addr.toNat) :
    findTo .noMatch (first :: (before ++ after)) npc
        ((before ++ after).length + 1) 1 none =
      .ok (some before.length) := by
  cases after with
  | nil =>
      rw [List.append_nil]
      exact findTo_last .noMatch first hbefore
  | cons entry after =>
      exact findTo_above .noMatch first hbefore
        (hafter entry List.mem_cons_self)

theorem printLeave_functionAt {funcs : List ElfFunctionTable} {f k : Nat}
    (hnodup : funcs.Nodup) (hf : f < funcs.length)
    (hpc : functionAt funcs event.pc = funcs[f]?)
    (hnpc : functionAt funcs event.npc = funcs[k]?) :
    printLeave funcs event (some k) f =
      .ok (if functionAt funcs event.pc = functionAt funcs event.npc then []
        else (functionAt funcs event.pc).toList.map
          fun entry => .leave event.timestamp entry.name) := by
  have hentry : funcs[f]? = some funcs[f] := List.getElem?_eq_getElem hf
  have hname : funcName funcs f = .ok funcs[f].name := by
    rw [funcName, hentry]
  rw [printLeave, hname, ok_bind, hpc, hnpc]
  by_cases hsame : f = k
  · subst hsame
    rw [if_neg (by simp), if_pos rfl]
  · have hother : funcs[f]? ≠ funcs[k]? :=
      fun heq => hsame ((List.getElem?_inj hf hnodup).mp heq)
    rw [if_pos (by simpa using hsame), if_neg hother, hentry]
    rfl

theorem returnLines_enter {funcs : List ElfFunctionTable}
    (h : ∃ entry ∈ funcs, entry.addr.toNat = event.npc) :
    ∃ entry ∈ funcs, entry.addr.toNat = event.npc ∧
      returnLines funcs event = [.enter event.timestamp entry.name] := by
  cases hfind : funcs.find? (·.addr.toNat = event.npc) with
  | none =>
      obtain ⟨entry, hentry, hnpc⟩ := h
      have := List.find?_eq_none.mp hfind entry hentry
      exact absurd hnpc (by simpa using this)
  | some entry =>
      refine ⟨entry, List.mem_of_find?_eq_some hfind, ?_, ?_⟩
      · simpa using List.find?_some hfind
      · rw [returnLines, hfind]

theorem returnLines_leave {funcs : List ElfFunctionTable}
    (h : ¬∃ entry ∈ funcs, entry.addr.toNat = event.npc) :
    returnLines funcs event =
      if functionAt funcs event.pc = functionAt funcs event.npc then []
      else (functionAt funcs event.pc).toList.map
        fun entry => .leave event.timestamp entry.name := by
  have hfind : funcs.find? (·.addr.toNat = event.npc) = none :=
    List.find?_eq_none.mpr (by simpa using h)
  rw [returnLines, hfind]

/-- A scan that leaves at its stop has missed a function entry if there is
one. -/
theorem leave_iff {funcs : List ElfFunctionTable} {f k : Nat}
    (hnodup : funcs.Nodup) (hf : f < funcs.length)
    (hpc : functionAt funcs event.pc = funcs[f]?)
    (hnpc : functionAt funcs event.npc = funcs[k]?) :
    printLeave funcs event (some k) f = .ok (returnLines funcs event) ↔
      ¬∃ entry ∈ funcs, entry.addr.toNat = event.npc := by
  rw [printLeave_functionAt hnodup hf hpc hnpc]
  constructor
  · intro heq hentered
    obtain ⟨entry, -, -, hlines⟩ := returnLines_enter hentered
    rw [hlines] at heq
    cases hat : functionAt funcs event.pc with
    | none => simp [hat] at heq
    | some left =>
        rw [hat] at heq
        split at heq <;> simp at heq
  · intro hentered
    rw [returnLines_leave hentered]

theorem Ascending.above_stop
    (h : Ascending (first :: (before ++ stop :: after))) :
    ∀ entry ∈ after, stop.addr.toNat < entry.addr.toNat := by
  have hrest := (List.pairwise_cons.mp h).2
  have hstop := (List.pairwise_append.mp hrest).2.1
  exact (List.pairwise_cons.mp hstop).1

theorem entrySeen_stop
    (hascending : Ascending (first :: (before ++ stop :: after)))
    (hbefore : ∀ entry ∈ before, entry.addr.toNat ≤ event.pc)
    (hpc : first.addr.toNat ≤ event.pc)
    (hstop : stop.addr.toNat = event.npc) :
    EntrySeen first (before ++ stop :: after) event := by
  refine fun _ => ⟨?_, ?_⟩
  · have := (List.pairwise_cons.mp hascending).1 stop (by simp)
    omega
  · intro other hother hbetween
    rcases List.mem_cons.mp hother with rfl | hother
    · omega
    rcases List.mem_append.mp hother with hother | hother
    · have := hbefore other hother
      omega
    rcases List.mem_cons.mp hother with rfl | hother
    · omega
    · have := hascending.above_stop other hother
      omega

theorem entrySeen_passed (hrest : ∀ entry ∈ rest,
      entry.addr.toNat ≠ event.npc) :
    EntrySeen first rest event ↔
      ¬∃ entry ∈ first :: rest, entry.addr.toNat = event.npc := by
  constructor
  · rintro hseen ⟨entry, hmem, hnpc⟩
    rcases List.mem_cons.mp hmem with rfl | hmem
    · exact (hseen ⟨entry, List.mem_cons_self, hnpc⟩).1 hnpc
    · exact hrest entry hmem hnpc
  · exact fun hno hentered => absurd hentered hno

/-- Behind an entry above the program counter nothing is looked for. -/
theorem entrySeen_above
    (hascending : Ascending (first :: (before ++ stop :: after)))
    (hbefore : ∀ entry ∈ before, entry.addr.toNat ≠ event.npc)
    (hstop : stop.addr.toNat ≠ event.npc)
    (hover : event.pc < stop.addr.toNat) :
    EntrySeen first (before ++ stop :: after) event ↔
      ¬∃ entry ∈ first :: (before ++ stop :: after),
        entry.addr.toNat = event.npc := by
  constructor
  · rintro hseen ⟨entry, hmem, hentered⟩
    obtain ⟨hfirst, hnone⟩ := hseen ⟨entry, hmem, hentered⟩
    rcases List.mem_cons.mp hmem with rfl | hmem
    · exact hfirst hentered
    rcases List.mem_append.mp hmem with hmem | hmem
    · exact hbefore entry hmem hentered
    rcases List.mem_cons.mp hmem with rfl | hmem
    · exact hstop hentered
    · have := hascending.above_stop entry hmem
      exact hnone stop (by simp) ⟨hover, by omega⟩
  · exact fun hno hentered => absurd hentered hno

theorem printReturn_iff (hascending : Ascending (first :: rest))
    (hpc : first.addr.toNat ≤ event.pc) {k : Nat}
    (hk : functionAt (first :: rest) event.npc = (first :: rest)[k]?) :
    printReturn .noMatch (first :: rest) event (some k) (rest.length + 1) 1 =
        .ok (returnLines (first :: rest) event) ↔
      EntrySeen first rest event := by
  rcases passes_or_stops (fun entry => entry.addr.toNat = event.npc ∨
      event.pc < entry.addr.toNat) rest with
    hall | ⟨before, stop, after, rfl, hbefore, hmeets⟩
  · simp only [not_or, Nat.not_lt] at hall
    have hat := functionAt_split rest [] hpc
      (fun entry hentry => (hall entry hentry).2) (by simp)
    rw [List.append_nil] at hat
    rw [printReturn_last .noMatch first (some k) hall, Behind.read, ok_bind,
      leave_iff hascending.nodup (by simp) hat hk,
      entrySeen_passed fun entry hentry => (hall entry hentry).1]
  simp only [not_or, Nat.not_lt] at hbefore
  by_cases hnpc : stop.addr.toNat = event.npc
  · rw [printReturn_enter .noMatch first (some k) hbefore hnpc]
    have hmem : stop ∈ first :: (before ++ stop :: after) := by simp
    obtain ⟨entry, hentry, hentered, hlines⟩ :=
      returnLines_enter ⟨stop, hmem, hnpc⟩
    have hsame : entry = stop :=
      List.inj_on_of_nodup_map hascending.nodup_addr hentry hmem
        (hentered.trans hnpc.symm)
    have hseen := entrySeen_stop hascending
      (fun entry hentry => (hbefore entry hentry).2) hpc hnpc
    exact iff_of_true (by rw [hlines, hsame]) hseen
  · have hover : event.pc < stop.addr.toNat := hmeets.resolve_left hnpc
    have hat := functionAt_split before (stop :: after) hpc
      (fun entry hentry => (hbefore entry hentry).2) (by
        intro entry hentry
        rcases List.mem_cons.mp hentry with rfl | hentry
        · exact hover
        · exact Nat.lt_trans hover (hascending.above_stop entry hentry))
    rw [printReturn_above .noMatch first (some k) hbefore hnpc hover,
      leave_iff hascending.nodup (by simp) hat hk,
      entrySeen_above hascending
        (fun entry hentry => (hbefore entry hentry).1) hnpc hover]

variable {ctx : OsdCoretraceloggerCtx}
  {funcs : List.Vector ElfFunctionTable ctx.numFuncs}

theorem printWithElfdata_return (hfuncs : ctx.funcs = some funcs)
    (hevent : event.OnlyReturn) :
    printWithElfdata behind ctx event =
      (findTo behind funcs.toList event.npc ctx.numFuncs 1 none >>=
        fun dest =>
          printReturn behind funcs.toList event dest ctx.numFuncs 1) := by
  rw [printWithElfdata, hfuncs]
  simp [hevent.isModechange, hevent.isCall, hevent.isRet]

theorem printWithElfdata_iff (hfuncs : ctx.funcs = some funcs)
    (hlist : funcs.toList = first :: rest)
    (hascending : Ascending (first :: rest)) (hevent : event.OnlyReturn)
    (hpc : first.addr.toNat ≤ event.pc)
    (hnpc : first.addr.toNat ≤ event.npc) :
    printWithElfdata .noMatch ctx event =
        .ok (returnLines (first :: rest) event) ↔
      EntrySeen first rest event := by
  have hnum : ctx.numFuncs = rest.length + 1 := by
    rw [← funcs.toList_length, hlist, List.length_cons]
  obtain ⟨before, after, rfl, hbefore, hafter⟩ :=
    Ascending.split (List.pairwise_cons.mp hascending).2 event.npc
  rw [printWithElfdata_return hfuncs hevent, hlist, hnum,
    findTo_noMatch hbefore hafter, ok_bind]
  exact printReturn_iff hascending hpc
    (functionAt_split before after hnpc hbefore hafter)

end Attribution

/-! ## A small program -/

def bootFunctions : List ElfFunctionTable :=
  [⟨0x100, "main"⟩, ⟨0x200, "init"⟩, ⟨0x300, "exit"⟩]

def bootLogger : OsdCoretraceloggerCtx :=
  ⟨3, some ⟨bootFunctions, rfl⟩⟩

def returnEvent (npc pc : Nat) : OsdCtmEvent where
  timestamp := 7
  npc := npc
  pc := pc
  mode := 0
  isRet := true
  isCall := false
  isModechange := false
  overflow := 0

theorem printWithElfdata_bootLogger :
    printWithElfdata .noMatch bootLogger (returnEvent 0x108 0x210) =
      .ok [.leave 7 "init"] := by
  have hlines : returnLines bootFunctions (returnEvent 0x108 0x210) =
      [.leave 7 "init"] := by decide
  have hiff := @printWithElfdata_iff ⟨0x100, "main"⟩
    [⟨0x200, "init"⟩, ⟨0x300, "exit"⟩] (returnEvent 0x108 0x210) bootLogger
    ⟨bootFunctions, rfl⟩ rfl rfl
    (by unfold Ascending; decide) ⟨rfl, rfl, rfl⟩ (by decide) (by decide)
  rw [← hlines]
  exact hiff.mpr (by unfold EntrySeen; decide)

theorem return_misattributed :
    printWithElfdata .noMatch bootLogger (returnEvent 0x100 0x210) =
        .ok [.leave 7 "init"] ∧
      returnLines bootFunctions (returnEvent 0x100 0x210) =
        [.enter 7 "main"] ∧
      printWithElfdata .noMatch bootLogger (returnEvent 0x300 0x110) =
        .ok [.leave 7 "main"] ∧
      returnLines bootFunctions (returnEvent 0x300 0x110) =
        [.enter 7 "exit"] := by
  decide

/-! ## The bounds of the table -/

section Bounds

variable (behind : Behind) (first : ElfFunctionTable)
  {rest : List ElfFunctionTable} (event : OsdCtmEvent)

theorem returns_printCall (funcs : List ElfFunctionTable) (count f : Nat)
    (h : f + count ≤ funcs.length) :
    Returns (printCall behind funcs event count f) := by
  induction count generalizing f with
  | zero => exact returns_ok _
  | succ count ih =>
      have hentry : funcs[f]? = some funcs[f] :=
        List.getElem?_eq_getElem (by omega)
      rw [printCall, addrMeets, hentry, funcName, hentry, ok_bind]
      split
      · exact returns_ok _
      · exact ih (f + 1) (by omega)

theorem returns_findTo {npc : Nat}
    (h : ∃ entry ∈ rest, npc < entry.addr.toNat) :
    Returns (findTo behind (first :: rest) npc (rest.length + 1) 1 none) := by
  obtain ⟨before, stop, after, rfl, hbefore, hover⟩ := stops h
  rw [findTo_above behind first (by simpa using hbefore) hover]
  exact returns_ok _

theorem returns_printLeave {funcs : List ElfFunctionTable}
    {dest : Option Nat} {f : Nat} (hf : f < funcs.length) :
    Returns (printLeave funcs event dest f) := by
  rw [printLeave, funcName, List.getElem?_eq_getElem hf]
  exact returns_ok _

theorem returns_printReturn (dest : Option Nat)
    (h : ∃ entry ∈ rest,
      entry.addr.toNat = event.npc ∨ event.pc < entry.addr.toNat) :
    Returns (printReturn behind (first :: rest) event dest
      (rest.length + 1) 1) := by
  obtain ⟨before, stop, after, rfl, hbefore, hmeets⟩ := stops h
  simp only [not_or, Nat.not_lt] at hbefore
  by_cases hnpc : stop.addr.toNat = event.npc
  · rw [printReturn_enter behind first dest hbefore hnpc]
    exact returns_ok _
  · rw [printReturn_above behind first dest hbefore hnpc
      (hmeets.resolve_left hnpc)]
    exact returns_printLeave event (by simp)

/-- Both scans of a return end at an entry of the table. -/
def ScansEnd (table : List ElfFunctionTable) (event : OsdCtmEvent) : Prop :=
  (∃ entry ∈ table.tail, event.npc < entry.addr.toNat) ∧
    ∃ entry ∈ table.tail,
      entry.addr.toNat = event.npc ∨ event.pc < entry.addr.toNat

theorem returnScans_iff (table : List ElfFunctionTable) :
    (findTo .fault table event.npc table.length 1 none >>= fun dest =>
        printReturn .fault table event dest table.length 1) ≠
          .error .outOfBounds ↔
      table = [] ∨ ScansEnd table event := by
  cases table with
  | nil => exact iff_of_true (by simp [findTo, printReturn]) (.inl rfl)
  | cons first rest =>
      by_cases hto : ∃ entry ∈ rest, event.npc < entry.addr.toNat
      · obtain ⟨dest, hdest⟩ := returns_findTo .fault first hto
        rw [List.length_cons, hdest, ok_bind]
        by_cases hend : ∃ entry ∈ rest,
            entry.addr.toNat = event.npc ∨ event.pc < entry.addr.toNat
        · obtain ⟨lines, hlines⟩ := returns_printReturn .fault first event
            dest hend
          exact iff_of_true (by simp [hlines]) (.inr ⟨hto, hend⟩)
        · have hlast := printReturn_last .fault first dest
            (by simpa using hend)
          refine iff_of_false (fun hne => hne hlast) ?_
          rintro (hnil | ⟨-, hends⟩)
          · simp at hnil
          · exact hend hends
      · have hlast := findTo_last .fault first (by simpa using hto)
        rw [List.length_cons, hlast]
        refine iff_of_false (fun hne => hne rfl) ?_
        rintro (hnil | ⟨htos, -⟩)
        · simp at hnil
        · exact hto htos

theorem printWithElfdata_inBounds_iff {ctx : OsdCoretraceloggerCtx}
    {funcs : List.Vector ElfFunctionTable ctx.numFuncs}
    (hfuncs : ctx.funcs = some funcs) (event : OsdCtmEvent) :
    printWithElfdata .fault ctx event ≠ .error .outOfBounds ↔
      event.isModechange ∨ event.isCall ∨ ¬event.isRet ∨
        ctx.numFuncs = 0 ∨ ScansEnd funcs.toList event := by
  have hnil : ctx.numFuncs = 0 ↔ funcs.toList = [] := by
    rw [← List.length_eq_zero_iff, funcs.toList_length]
  rw [printWithElfdata, hfuncs]
  dsimp only
  by_cases hmode : event.isModechange
  · simp [hmode]
  by_cases hcall : event.isCall
  · obtain ⟨lines, hlines⟩ := returns_printCall .fault event
      funcs.toList ctx.numFuncs 0 (by simp)
    simp [hmode, hcall, hlines]
  by_cases hret : event.isRet
  · have hscans := returnScans_iff event funcs.toList
    rw [funcs.toList_length] at hscans
    simp only [hmode, hcall, hret, if_true, if_false, Bool.false_eq_true,
      not_true_eq_false, false_or, hnil]
    exact hscans
  · simp [hmode, hcall, hret]

end Bounds

theorem inBounds_bootLogger :
    printWithElfdata .fault bootLogger (returnEvent 0x108 0x210) ≠
      .error .outOfBounds :=
  (printWithElfdata_inBounds_iff rfl (returnEvent 0x108 0x210)).mpr
    (by unfold ScansEnd; decide)

/-- A return into the last function of the file. -/
theorem return_outOfBounds :
    ∃ ctx, osdCoretraceloggerSetElf ⟨0, none⟩
        (some (.object (elfWithFunctions 0x80 5))) = .ok (osdOk, ctx) ∧
      ctx.numFuncs = 3 ∧
      printWithElfdata .fault ctx (returnEvent 0x84 0x10) =
        .error .outOfBounds := by
  refine ⟨⟨3, some ⟨[⟨5, "init"⟩, ⟨5, "init"⟩, ⟨0x80, "main"⟩], rfl⟩⟩,
    ?_, rfl, by decide⟩
  rw [setElf_object _ (faithful_elfWithFunctions 0x80 5)]
  rfl

end Osd.Client
