import AsmFixtures.Proofs.OperandClass.Sampler
import Mathlib.Data.Int.CardIntervalMod

/-! The draws from a sampler as streams. A sampler that rotates hands out each domain in
cyclic order, cut into draws of equal size, as if no other class were drawn from in between;
so all positions of a domain get their turn, and none is ever two turns ahead of another. A
sampler that does not rotate repeats itself. -/

namespace AsmFixtures.Sampler

open OperandClass

inductive Request
  | peek (key : String)
  | peekCount (key : String)
  | combinations (keys : List String)

def Request.keys : Request → List String
  | peek key => [key]
  | peekCount _ => []
  | combinations keys => keys

inductive Answer
  | entries (drawn : List Entry)
  | count (n : Nat)
  | combinations (all : List (List Entry))

def answer (s : Sampler) : Request → Answer × Sampler
  | .peek key =>
    let (drawn, next) := s.peek key
    (.entries drawn, next)
  | .peekCount key => (.count (peekCount key), s)
  | .combinations keys =>
    let (all, next) := s.combinations keys
    (.combinations all, next)

def after (s : Sampler) (requests : List Request) : Sampler :=
  requests.foldl (fun s r => (s.answer r).2) s

structure Draw where
  key : String
  start : Nat
  entries : List Entry

def Draw.positions (d : Draw) : List Nat :=
  (List.range d.entries.length).map fun i => (d.start + i) % (domain d.key).length

def drawsFrom (s : Sampler) : List String → List Draw
  | [] => []
  | key :: keys => ⟨key, s.cursor key, (s.peek key).1⟩ :: drawsFrom (s.peek key).2 keys

def history (s : Sampler) : List Request → List Draw
  | [] => []
  | r :: rest => s.drawsFrom r.keys ++ history (s.answer r).2 rest

def Request.told : Request → List (List Entry) → Answer
  | peek _, drawn => .entries drawn.flatten
  | peekCount key, _ => .count (Sampler.peekCount key)
  | combinations _, drawn => .combinations (choices drawn)

theorem entries_drawsFrom (s : Sampler) (keys : List String) :
    (s.drawsFrom keys).map Draw.entries = (s.draws keys).1 := by
  induction keys generalizing s with
  | nil => rfl
  | cons key keys ih => rw [drawsFrom, List.map_cons, ih, draws_cons]

theorem answer_eq (s : Sampler) (r : Request) :
    s.answer r = (r.told ((s.drawsFrom r.keys).map Draw.entries), (s.draws r.keys).2) := by
  rw [entries_drawsFrom]
  cases r with
  | peek key => simp [answer, Request.told, Request.keys, draws]
  | peekCount key => rfl
  | combinations keys => rw [answer, combinations_eq_choices]; rfl

theorem drawsFrom_append (s : Sampler) (first second : List String) :
    s.drawsFrom (first ++ second) = s.drawsFrom first ++ (s.draws first).2.drawsFrom second := by
  induction first generalizing s with
  | nil => rfl
  | cons key keys ih => rw [List.cons_append, drawsFrom, ih, drawsFrom, draws_cons]; rfl

theorem draws_append (s : Sampler) (first second : List String) :
    (s.draws (first ++ second)).2 = ((s.draws first).2.draws second).2 := by
  induction first generalizing s with
  | nil => rfl
  | cons key keys ih => rw [List.cons_append, draws_cons, draws_cons]; exact ih _

theorem history_eq (s : Sampler) (requests : List Request) :
    s.history requests = s.drawsFrom (requests.flatMap Request.keys) ∧
      s.after requests = (s.draws (requests.flatMap Request.keys)).2 := by
  induction requests generalizing s with
  | nil => exact ⟨rfl, rfl⟩
  | cons r rest ih =>
    obtain ⟨draws, last⟩ := ih (s.answer r).2
    have next := congrArg Prod.snd (s.answer_eq r)
    constructor
    · rw [history, draws, next, List.flatMap_cons, drawsFrom_append]
    · rw [List.flatMap_cons, draws_append, ← next, ← last]
      rfl

def nthDraw (key : String) (n : Nat) : Draw :=
  ⟨key, n * peekCount key % (domain key).length, nthWindow key n⟩

/-- The draws from one class are numbered in sequence, whatever else is drawn from. -/
theorem filter_drawsFrom {s : Sampler} {times : String → Nat} (h : s.Drawn times)
    (keys : List String) (key : String) :
    (s.drawsFrom keys).filter (·.key = key) =
      (List.range (keys.count key)).map fun j => nthDraw key (times key + j) := by
  induction keys generalizing s times with
  | nil => rfl
  | cons first keys ih =>
    obtain ⟨window, after⟩ := peek_of_drawn h first
    have later := ih after
    rw [drawsFrom]
    by_cases same : first = key
    · subst same
      have count : (first :: keys).count first = keys.count first + 1 := List.count_cons_self
      rw [List.filter_cons_of_pos (by simp), later, count, List.range_succ_eq_map,
        List.map_cons, List.map_map, window, h.cursor_eq first]
      simp [nthDraw, Function.comp_def, Nat.add_assoc, Nat.add_comm 1]
    · rw [List.filter_cons_of_neg (by simpa using same), later, List.count_cons_of_ne same]
      simp [same]

theorem flatMap_window {α : Type} (entries : List α) (n count : Nat) :
    ((List.range n).flatMap fun j => window entries (j * count) count) =
      window entries 0 (n * count) := by
  have blocks := map_range_mul id n count
  rw [List.map_id] at blocks
  simp only [window, Nat.zero_add, blocks, List.filterMap_flatMap, List.filterMap_map]
  rfl

theorem window_zero {α : Type} {entries : List α} {n count : Nat}
    (le : count ≤ n * entries.length) :
    window entries 0 count = (List.replicate n entries).flatten.take count := by
  have turns : (List.replicate n entries).flatten = window entries 0 (n * entries.length) := by
    rw [← flatMap_window]
    have turn : ∀ j, window entries (j * entries.length) entries.length = entries := by
      intro j
      rw [← window_mod, Nat.mul_mod_left, window_length]
    simp [turn, List.flatMap_def, List.map_const']
  rw [turns, take_window 0 le]

theorem length_entries_nthDraw (key : String) (n : Nat) :
    (nthDraw key n).entries.length = peekCount key :=
  (drawable_window key _).length_eq

theorem positions_nthDraw (key : String) (n : Nat) :
    (nthDraw key n).positions =
      (List.range (peekCount key)).map fun i => (n * peekCount key + i) % (domain key).length := by
  rw [Draw.positions, length_entries_nthDraw]
  simp only [nthDraw, Nat.mod_add_mod]

theorem entries_nthDraw (key : String) (n : Nat) :
    (nthDraw key n).entries.map some = (nthDraw key n).positions.map ((domain key)[·]?) := by
  rw [positions_nthDraw, List.map_map]
  by_cases nothing : peekCount key = 0
  · simp [nthDraw, nthWindow, window, nothing]
  · exact map_some_window (domain_ne_nil nothing) _ _

def stream (requests : List Request) (key : String) : List Draw :=
  (history { rotate := true } requests).filter (·.key = key)

theorem stream_eq (requests : List Request) (key : String) :
    stream requests key =
      (List.range ((requests.flatMap Request.keys).count key)).map (nthDraw key) := by
  rw [stream, (history_eq _ requests).1, filter_drawsFrom drawn_start]
  simp

theorem take_stream (requests : List Request) (key : String) (n : Nat) :
    (stream requests key).take n =
      (List.range (min n (stream requests key).length)).map (nthDraw key) := by
  rw [stream_eq, ← List.map_take, List.take_range, List.length_map, List.length_range]

theorem positions_take_stream (requests : List Request) (key : String) (n : Nat) :
    ((stream requests key).take n).flatMap Draw.positions =
      (List.range (min n (stream requests key).length * peekCount key)).map
        (· % (domain key).length) := by
  rw [take_stream, List.flatMap_map, map_range_mul]
  exact congrArg (List.flatMap · _) (funext fun j => positions_nthDraw key j)

theorem count_map_mod {size p : Nat} (inside : p < size) (n : Nat) :
    ((List.range n).map (· % size)).count p = n / size + if p < n % size then 1 else 0 := by
  have turns := Nat.count_modEq_card n (Nat.zero_lt_of_lt inside) p
  rw [Nat.mod_eq_of_lt inside] at turns
  rw [← turns, Nat.count, List.count, List.countP_map]
  apply List.countP_congr
  intro x _
  simp [Nat.ModEq, Nat.mod_eq_of_lt inside]

/-- What a rotating sampler hands out from one class, whatever else is asked for. -/
structure FairStream (requests : List Request) (key : String) : Prop where
  length_eq : (stream requests key).length = (requests.flatMap Request.keys).count key
  size : ∀ d ∈ stream requests key, d.entries.length = peekCount key
  cyclic : ∀ n ≤ (stream requests key).length,
    ((stream requests key).take n).flatMap Draw.entries =
      (List.replicate n (domain key)).flatten.take (n * peekCount key)
  entries_eq : ∀ d ∈ stream requests key,
    d.entries.map some = d.positions.map ((domain key)[·]?)
  fair : ∀ n p q, p < (domain key).length → q < (domain key).length →
    (((stream requests key).take n).flatMap Draw.positions).count p ≤
      (((stream requests key).take n).flatMap Draw.positions).count q + 1
  /-- As many draws as the size of the domain over that of a draw, rounded up, leave no
  position out. -/
  covers : peekCount key ≠ 0 → ∀ n ≤ (stream requests key).length,
    ((domain key).length + peekCount key - 1) / peekCount key ≤ n →
    ∀ p < (domain key).length, p ∈ ((stream requests key).take n).flatMap Draw.positions
  cursor_lt : domain key ≠ [] →
    (after { rotate := true } requests).cursor key < (domain key).length
  of_empty : domain key = [] → ∀ d ∈ stream requests key, d.entries = []

theorem fairStream (requests : List Request) (key : String) : FairStream requests key where
  length_eq := by simp [stream_eq]
  size d mem := by
    rw [stream_eq] at mem
    obtain ⟨n, _, rfl⟩ := List.mem_map.mp mem
    exact length_entries_nthDraw key n
  cyclic n le := by
    have fits : n * peekCount key ≤ n * (domain key).length :=
      Nat.mul_le_mul_left n (peekCount_le_length key)
    rw [take_stream, Nat.min_eq_left le, List.flatMap_map, ← window_zero fits, ← flatMap_window]
    rfl
  entries_eq d mem := by
    rw [stream_eq] at mem
    obtain ⟨n, _, rfl⟩ := List.mem_map.mp mem
    exact entries_nthDraw key n
  fair n p q hp hq := by
    rw [positions_take_stream, count_map_mod hp, count_map_mod hq]
    split <;> split <;> omega
  covers gives n le enough p hp := by
    have positive : 0 < peekCount key := Nat.pos_of_ne_zero gives
    have reached : (domain key).length ≤ n * peekCount key := by
      have bound := (Nat.div_lt_iff_lt_mul positive).mp (Nat.lt_succ_of_le enough)
      rw [Nat.succ_mul] at bound
      omega
    rw [positions_take_stream, Nat.min_eq_left le]
    exact List.mem_map.mpr
      ⟨p, List.mem_range.mpr (Nat.lt_of_lt_of_le hp reached), Nat.mod_eq_of_lt hp⟩
  cursor_lt nonempty := by
    have drawn := (draws_of_drawn drawn_start (requests.flatMap Request.keys)).2
    rw [(history_eq _ requests).2, drawn.cursor_eq]
    exact Nat.mod_lt _ (List.length_pos_iff.mpr nonempty)
  of_empty empty d mem := by
    rw [stream_eq] at mem
    obtain ⟨n, _, rfl⟩ := List.mem_map.mp mem
    rw [nthDraw, nthWindow, empty, window_nil]

theorem drawsFrom_of_not_rotate {s : Sampler} (h : s.rotate = false) (keys : List String) :
    ∀ d ∈ s.drawsFrom keys, d.entries = (domain d.key).take (peekCount d.key) := by
  induction keys with
  | nil =>
    intro d mem
    cases mem
  | cons key keys ih =>
    have still : s.peek key = ((domain key).take (peekCount key), s) := by simp [peek, h]
    rw [drawsFrom, still]
    exact List.forall_mem_cons.mpr ⟨rfl, ih⟩

/-- Requests are answered from the draws of their classes. Under rotation the draws from each
class are a fair stream of their own; without it they are all the same. -/
theorem draws_are_fair_streams :
    (∀ (s : Sampler) (earlier : List Request) (r : Request),
      ((s.after earlier).answer r).1 =
          r.told (((s.after earlier).drawsFrom r.keys).map Draw.entries) ∧
        s.history (earlier ++ [r]) = s.history earlier ++ (s.after earlier).drawsFrom r.keys) ∧
      (∀ requests key, FairStream requests key) ∧
      ∀ cursors requests, after ⟨false, cursors⟩ requests = ⟨false, cursors⟩ ∧
        ∀ d ∈ history ⟨false, cursors⟩ requests,
          d.entries = (domain d.key).take (peekCount d.key) := by
  refine ⟨fun s earlier r => ⟨?_, ?_⟩, fairStream, fun cursors requests => ⟨?_, ?_⟩⟩
  · rw [answer_eq]
  · rw [(history_eq s _).1, (history_eq s earlier).1, (history_eq s earlier).2,
      List.flatMap_append, drawsFrom_append, List.flatMap_singleton]
  · rw [(history_eq _ requests).2, draws_of_not_rotate rfl]
  · rw [(history_eq _ requests).1]
    exact drawsFrom_of_not_rotate rfl _

end AsmFixtures.Sampler
