import Sigui.RunRules

/-! Two threads over one shared state, interleaved between atomic steps. A thread is proved
against what it may rely on: its own steps keep the invariant and what the other relies on. -/
namespace Sigui

section Programs

variable {ι σ α β : Type}

/-- A program as its next atomic step. `tag` says on whose behalf the step is made; what comes
next may depend on the state the step finds. -/
inductive Prog (ι σ α : Type)
  | ret (a : α)
  | atomic (tag : ι) (update : σ → σ) (next : σ → Prog ι σ α)

namespace Prog

def bind : Prog ι σ α → (α → Prog ι σ β) → Prog ι σ β
  | .ret a, f => f a
  | .atomic tag update next, f => .atomic tag update fun s => (next s).bind f

instance : Monad (Prog ι σ) where
  pure := .ret
  bind := bind

def read (tag : ι) (f : σ → α) : Prog ι σ α := .atomic tag id fun s => .ret (f s)

def write (tag : ι) (f : σ → σ) : Prog ι σ Unit := .atomic tag f fun _ => .ret ()

end Prog

variable (inv : σ → Prop) (rely : σ → σ → Prop) (guar : ι → σ → σ → Prop)
  (post : α → σ → Prop)

/-- Whatever the other thread does between the steps, each step keeps the invariant and the
guarantee, and the result satisfies `post`. -/
def Prog.Safe : Prog ι σ α → σ → Prop
  | .ret a, s => ∀ s', rely s s' → inv s' → post a s'
  | .atomic tag update next, s => ∀ s', rely s s' → inv s' →
      inv (update s') ∧ guar tag s' (update s') ∧ (next s').Safe (update s')

variable {inv rely guar post} {post' : β → σ → Prop}

namespace Prog.Safe

theorem of_rely (htrans : ∀ a b c, rely a b → rely b c → rely a c) {p : Prog ι σ α} {s s' : σ}
    (h : p.Safe inv rely guar post s) (hrely : rely s s') : p.Safe inv rely guar post s' := by
  cases p with
  | ret a => exact fun t ht => h t (htrans _ _ _ hrely ht)
  | atomic tag update next => exact fun t ht => h t (htrans _ _ _ hrely ht)

theorem bind {p : Prog ι σ α} {f : α → Prog ι σ β} {s : σ}
    (h : p.Safe inv rely guar (fun a t => (f a).Safe inv rely guar post' t) s)
    (hself : ∀ t, rely t t) (hinv : inv s) : (p >>= f).Safe inv rely guar post' s := by
  induction p generalizing s with
  | ret a => exact h s (hself s) hinv
  | atomic tag update next ih =>
    intro s' hrely hinv'
    obtain ⟨hkeeps, hguar, hnext⟩ := h s' hrely hinv'
    exact ⟨hkeeps, hguar, ih s' hnext hkeeps⟩

theorem mono {p : Prog ι σ α} {s : σ} {weaker : α → σ → Prop}
    (h : p.Safe inv rely guar post s) (hpost : ∀ a t, inv t → post a t → weaker a t) :
    p.Safe inv rely guar weaker s := by
  induction p generalizing s with
  | ret a => exact fun t ht hinv => hpost a t hinv (h t ht hinv)
  | atomic tag update next ih =>
    intro s' hrely hinv
    obtain ⟨hkeeps, hguar, hnext⟩ := h s' hrely hinv
    exact ⟨hkeeps, hguar, ih s' hnext⟩

end Prog.Safe

end Programs

section System

variable {ι σ α β A B : Type}

structure Threads (ι σ α β : Type) where
  shared : σ
  left : Prog ι σ α
  right : Prog ι σ β

/-- A scheduler's choice: a thread that has finished starts an operation, or one takes its next
atomic step. -/
inductive Move (A B : Type)
  | startLeft (op : A)
  | startRight (op : B)
  | stepLeft
  | stepRight
  deriving DecidableEq

variable (progLeft : A → Prog ι σ α) (progRight : B → Prog ι σ β)

def Threads.move (w : Threads ι σ α β) : Move A B → Threads ι σ α β
  | .startLeft op =>
    match w.left with
    | .ret _ => { w with left := progLeft op }
    | .atomic .. => w
  | .startRight op =>
    match w.right with
    | .ret _ => { w with right := progRight op }
    | .atomic .. => w
  | .stepLeft =>
    match w.left with
    | .ret _ => w
    | .atomic _ update next => { w with shared := update w.shared, left := next w.shared }
  | .stepRight =>
    match w.right with
    | .ret _ => w
    | .atomic _ update next => { w with shared := update w.shared, right := next w.shared }

variable (inv : σ → Prop) (relyLeft relyRight : σ → σ → Prop)
  (guarLeft guarRight : ι → σ → σ → Prop) (postLeft : α → σ → Prop) (postRight : β → σ → Prop)

structure Threads.Good (w : Threads ι σ α β) : Prop where
  holds : inv w.shared
  left : w.left.Safe inv relyLeft guarLeft postLeft w.shared
  right : w.right.Safe inv relyRight guarRight postRight w.shared

/-- The conditions under which two menus of operations can run against each other. -/
structure Compatible (allowed : σ → A → Prop) : Prop where
  selfLeft : ∀ s, relyLeft s s
  selfRight : ∀ s, relyRight s s
  transLeft : ∀ a b c, relyLeft a b → relyLeft b c → relyLeft a c
  transRight : ∀ a b c, relyRight a b → relyRight b c → relyRight a c
  leftKeeps : ∀ tag a b, guarLeft tag a b → relyRight a b
  rightKeeps : ∀ tag a b, guarRight tag a b → relyLeft a b
  startLeft : ∀ op a s, inv s → postLeft a s → allowed s op →
    (progLeft op).Safe inv relyLeft guarLeft postLeft s
  startRight : ∀ op a s, inv s → postRight a s →
    (progRight op).Safe inv relyRight guarRight postRight s

def MoveOk (allowed : σ → A → Prop) (w : Threads ι σ α β) : Move A B → Prop
  | .startLeft op => allowed w.shared op
  | .startRight _ | .stepLeft | .stepRight => True

instance (allowed : σ → A → Prop) [∀ s op, Decidable (allowed s op)] (w : Threads ι σ α β) :
    DecidablePred (MoveOk allowed w : Move A B → Prop)
  | .startLeft op => inferInstanceAs (Decidable (allowed w.shared op))
  | .startRight _ | .stepLeft | .stepRight => isTrue trivial

variable {progLeft progRight inv relyLeft relyRight guarLeft guarRight postLeft postRight}
  {allowed : σ → A → Prop}

theorem Threads.Good.move {w : Threads ι σ α β} {m : Move A B}
    (h : w.Good inv relyLeft relyRight guarLeft guarRight postLeft postRight)
    (hc : Compatible progLeft progRight inv relyLeft relyRight guarLeft guarRight postLeft
      postRight allowed) (hok : MoveOk allowed w m) :
    (w.move progLeft progRight m).Good inv relyLeft relyRight guarLeft guarRight postLeft
      postRight := by
  obtain ⟨shared, left, right⟩ := w
  cases m with
  | startLeft op =>
    cases left with
    | ret a =>
      have hpost : postLeft a shared := h.left shared (hc.selfLeft _) h.holds
      exact ⟨h.holds, hc.startLeft op a shared h.holds hpost hok, h.right⟩
    | atomic => exact h
  | startRight op =>
    cases right with
    | ret b =>
      have hpost : postRight b shared := h.right shared (hc.selfRight _) h.holds
      exact ⟨h.holds, h.left, hc.startRight op b shared h.holds hpost⟩
    | atomic => exact h
  | stepLeft =>
    cases left with
    | ret => exact h
    | atomic tag update next =>
      obtain ⟨hkeeps, hguar, hnext⟩ := h.left shared (hc.selfLeft _) h.holds
      exact ⟨hkeeps, hnext, h.right.of_rely hc.transRight (hc.leftKeeps _ _ _ hguar)⟩
  | stepRight =>
    cases right with
    | ret => exact h
    | atomic tag update next =>
      obtain ⟨hkeeps, hguar, hnext⟩ := h.right shared (hc.selfRight _) h.holds
      exact ⟨hkeeps, h.left.of_rely hc.transLeft (hc.rightKeeps _ _ _ hguar), hnext⟩

theorem run_good {w : Threads ι σ α β} {moves : List (Move A B)}
    (hc : Compatible progLeft progRight inv relyLeft relyRight guarLeft guarRight postLeft
      postRight allowed)
    (hok : RunOk (Threads.move progLeft progRight) (MoveOk allowed) w moves)
    (h : w.Good inv relyLeft relyRight guarLeft guarRight postLeft postRight) :
    (runSteps (Threads.move progLeft progRight) w moves).Good inv relyLeft relyRight guarLeft
      guarRight postLeft postRight :=
  run_invariant (fun _ _ hw hm => hw.move hc hm) hok h

end System

end Sigui
