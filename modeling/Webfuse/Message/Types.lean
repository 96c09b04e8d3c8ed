/-
# Message types

`src/webfuse/request_type.hpp`, `request_type.cpp`, `response_type.hpp` and
`response_type.cpp`.  A message is four bytes of id, one byte of type and a
payload; the type byte names the method, with bit `0x80` set in a response.

`getRequestType` is the `switch` over a received type byte: it compares the
byte with the cases in the order of the source and answers `unknown` when none
is equal.
-/

import Mathlib.Algebra.Group.Nat.Defs
import Mathlib.Data.UInt
import Mathlib.Tactic.Common

namespace Webfuse

/-- `std::string` and `std::vector` of bytes. -/
abbrev Bytes := List UInt8

/-- An exception.  Every handler of the source is `catch(...)`, so nothing but
the text is told apart. -/
structure Exn where
  what : String
deriving DecidableEq, Repr

/-- `enum class request_type`. -/
inductive RequestType
  | unknown | access | getattr | readlink | symlink | link | rename | chmod | chown | truncate
  | fsync | open | mknod | create | release | unlink | read | write | mkdir | readdir | rmdir
  | statfs | utimens | getcreds
deriving DecidableEq, Repr

/-- `static_cast<uint8_t>` of a request type. -/
def RequestType.toByte : RequestType → UInt8
  | unknown => 0x00
  | access => 0x01
  | getattr => 0x02
  | readlink => 0x03
  | symlink => 0x04
  | link => 0x05
  | rename => 0x06
  | chmod => 0x07
  | chown => 0x08
  | truncate => 0x09
  | fsync => 0x0a
  | «open» => 0x0b
  | mknod => 0x0c
  | create => 0x0d
  | release => 0x0e
  | unlink => 0x0f
  | read => 0x10
  | write => 0x11
  | mkdir => 0x12
  | readdir => 0x13
  | rmdir => 0x14
  | statfs => 0x15
  | utimens => 0x16
  | getcreds => 0x17

/-- The cases of the `switch` in `get_request_type`, in order. -/
def RequestType.cases : List RequestType :=
  [.access, .getattr, .readlink, .symlink, .link, .rename, .chmod, .chown, .truncate, .fsync,
    .open, .mknod, .create, .release, .unlink, .read, .write, .mkdir, .readdir, .rmdir, .statfs,
    .utimens, .getcreds]

/-- `get_request_type`. -/
def getRequestType (value : UInt8) : RequestType :=
  (RequestType.cases.find? fun t => t.toByte = value).getD .unknown

/-- Every type byte that is written is recognized as its type. -/
@[simp] theorem getRequestType_toByte (t : RequestType) : getRequestType t.toByte = t := by
  cases t <;> rfl

/-- A byte that is recognized is the byte of its type. -/
theorem toByte_getRequestType {byte : UInt8} (h : getRequestType byte ≠ .unknown) :
    (getRequestType byte).toByte = byte := by
  unfold getRequestType at h ⊢
  cases hfind : RequestType.cases.find? fun t => t.toByte = byte with
  | some t => simpa using List.find?_some hfind
  | none =>
      rw [hfind] at h
      exact absurd rfl h

/-- A type other than `unknown` is recognized by its byte alone. -/
theorem getRequestType_eq_iff {byte : UInt8} {t : RequestType} (ht : t ≠ .unknown) :
    getRequestType byte = t ↔ byte = t.toByte := by
  constructor
  · rintro rfl
    exact (toByte_getRequestType ht).symm
  · rintro rfl
    exact getRequestType_toByte t

/-- `enum class response_type`. -/
inductive ResponseType
  | unknown | access | getattr | readlink | symlink | link | rename | chmod | chown | truncate
  | fsync | open | mknod | create | release | unlink | read | write | mkdir | readdir | rmdir
  | statfs | utimens | getcreds
deriving DecidableEq, Repr

/-- `static_cast<uint8_t>` of a response type. -/
def ResponseType.toByte : ResponseType → UInt8
  | unknown => 0x80
  | access => 0x81
  | getattr => 0x82
  | readlink => 0x83
  | symlink => 0x84
  | link => 0x85
  | rename => 0x86
  | chmod => 0x87
  | chown => 0x88
  | truncate => 0x89
  | fsync => 0x8a
  | «open» => 0x8b
  | mknod => 0x8c
  | create => 0x8d
  | release => 0x8e
  | unlink => 0x8f
  | read => 0x90
  | write => 0x91
  | mkdir => 0x92
  | readdir => 0x93
  | rmdir => 0x94
  | statfs => 0x95
  | utimens => 0x96
  | getcreds => 0x97

/-- `get_response_type`. -/
def getResponseType : RequestType → ResponseType
  | .access => .access
  | .getattr => .getattr
  | .readlink => .readlink
  | .symlink => .symlink
  | .link => .link
  | .rename => .rename
  | .chmod => .chmod
  | .chown => .chown
  | .truncate => .truncate
  | .fsync => .fsync
  | .open => .open
  | .mknod => .mknod
  | .create => .create
  | .release => .release
  | .unlink => .unlink
  | .read => .read
  | .write => .write
  | .mkdir => .mkdir
  | .readdir => .readdir
  | .rmdir => .rmdir
  | .statfs => .statfs
  | .utimens => .utimens
  | .getcreds => .getcreds
  | .unknown => .unknown

/-- A response has the type byte of its request, with bit `0x80` set. -/
theorem toByte_getResponseType (t : RequestType) :
    (getResponseType t).toByte = t.toByte ||| 0x80 := by
  cases t <;> rfl

end Webfuse
