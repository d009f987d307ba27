import Mathlib.Data.List.Basic

/-!
# Framed streams

A stream that is cut into messages, and a receiver that runs a command for each of them. A splitter
looks at what has arrived; what it has decided stays decided when more arrives. So it does not
matter how the stream is cut into chunks: a receiver that keeps the incomplete end of each chunk for
the next one does what it would do on the whole stream.
-/

namespace Roadcast.Framing

variable {A M S : Type*}

/-- What is at the front of a stream. -/
inductive Next (A M : Type*)
  | incomplete
  | malformed
  | message (content : M) (rest : List A)

/-- A function that finds the message at the front of a stream. Later input only adds to what
follows the message. -/
structure Splitter (A M : Type*) where
  next : List A → Next A M
  shorter : ∀ {stream content rest}, next stream = .message content rest →
    rest.length < stream.length
  message_append : ∀ {stream content rest} (more : List A), next stream = .message content rest →
    next (stream ++ more) = .message content (rest ++ more)
  malformed_append : ∀ {stream} (more : List A), next stream = .malformed →
    next (stream ++ more) = .malformed

/-- A receiver that waits for more input, or one that has given up. -/
inductive Served (S A : Type*)
  | kept (state : S) (leftover : List A)
  | closed (state : S)

variable (splitter : Splitter A M) (command : S → M → Except S S)

/-- Run the command for each message of a stream, until one fails. -/
def Splitter.serve (state : S) (stream : List A) : Served S A :=
  match _h : splitter.next stream with
  | .incomplete => .kept state stream
  | .malformed => .closed state
  | .message content rest =>
    match command state content with
    | .error failed => .closed failed
    | .ok state' => serve state' rest
termination_by stream.length
decreasing_by exact splitter.shorter _h

/-- The receiver after one more chunk. -/
def Splitter.feed (served : Served S A) (chunk : List A) : Served S A :=
  match served with
  | .kept state leftover => splitter.serve command state (leftover ++ chunk)
  | .closed state => .closed state

variable {splitter command} {state : S} {stream : List A}

/-- One round of the receiver. -/
theorem serve_eq (state : S) (stream : List A) :
    splitter.serve command state stream =
      match splitter.next stream with
      | .incomplete => .kept state stream
      | .malformed => .closed state
      | .message content rest =>
        match command state content with
        | .error failed => .closed failed
        | .ok state' => splitter.serve command state' rest := by
  rw [Splitter.serve]
  split
  · rename_i hnext
    rw [hnext]
  · rename_i hnext
    rw [hnext]
  · rename_i hnext
    rw [hnext]

/-- An incomplete message is kept until more arrives. -/
theorem serve_incomplete (h : splitter.next stream = .incomplete) :
    splitter.serve command state stream = .kept state stream := by
  rw [serve_eq, h]

/-- A malformed message closes the session. -/
theorem serve_malformed (h : splitter.next stream = .malformed) :
    splitter.serve command state stream = .closed state := by
  rw [serve_eq, h]

/-- A message is handled, and what is behind it is served next. -/
theorem serve_message {content : M} {rest : List A}
    (h : splitter.next stream = .message content rest) :
    splitter.serve command state stream =
      match command state content with
      | .error failed => .closed failed
      | .ok state' => splitter.serve command state' rest := by
  rw [serve_eq, h]

/-- The front of a stream can be served before the rest has arrived. -/
theorem serve_append (state : S) (stream more : List A) :
    splitter.serve command state (stream ++ more) =
      splitter.feed command (splitter.serve command state stream) more := by
  -- induction on the length: what follows a message is shorter than the stream
  induction hlength : stream.length using Nat.strongRecOn generalizing state stream with
  | ind length ih =>
    cases hnext : splitter.next stream with
    | incomplete =>
      rw [serve_incomplete hnext]
      rfl
    | malformed =>
      rw [serve_malformed hnext, serve_malformed (splitter.malformed_append more hnext)]
      rfl
    | message content rest =>
      rw [serve_message hnext, serve_message (splitter.message_append more hnext)]
      cases command state content with
      | error failed => rfl
      | ok state' => exact ih rest.length (hlength ▸ splitter.shorter hnext) state' rest rfl

/-- What is kept is the incomplete front of a message. -/
theorem next_of_serve_kept {leftover : List A} {state' : S}
    (h : splitter.serve command state stream = .kept state' leftover) :
    splitter.next leftover = .incomplete := by
  induction hlength : stream.length using Nat.strongRecOn generalizing state stream with
  | ind length ih =>
    cases hnext : splitter.next stream with
    | incomplete =>
      rw [serve_incomplete hnext] at h
      obtain ⟨-, rfl⟩ := Served.kept.inj h
      exact hnext
    | malformed =>
      rw [serve_malformed hnext] at h
      contradiction
    | message content rest =>
      rw [serve_message hnext] at h
      cases hcommand : command state content with
      | error failed =>
        rw [hcommand] at h
        contradiction
      | ok state'' =>
        rw [hcommand] at h
        exact ih rest.length (hlength ▸ splitter.shorter hnext) h rfl

end Roadcast.Framing
