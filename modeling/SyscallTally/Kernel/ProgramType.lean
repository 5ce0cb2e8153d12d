import SyscallTally.Text.Segments

/-!
Contract: the types of program, and the names that stand for them.

Owns:
- `ProgramType`, as far as types differ for the loader of kernel probes;
- the names of the types, and what may follow them;
- `ProgramType.ofSectionName?`, the type of the programs in a section.

The name of a section of programs is cut at its slashes. The first part is the type of the programs.
There are three rules for the second part, and parts after it are never looked at:

- most types leave it free;
- a packet program (`xdp`) may say there where it is to be attached, and may say nothing else;
- a program of a control group or of a socket buffer has to say there where it is to be attached.
-/

set_option autoImplicit false

namespace SyscallTally.Kernel

inductive ProgramType where
  /-- It runs on calls of a kernel symbol. -/
  | kernelProbe
  /-- It runs on anything else. -/
  | other
deriving DecidableEq, Repr

namespace ProgramType

/-- The types of program that run on calls of a kernel symbol, or on its returns. -/
def probeTypes : List String := ["kprobe", "kretprobe"]

/-- The other types that leave the second part free. -/
def freeTypes : List String :=
  ["uprobe", "uprobe.s", "uretprobe", "uretprobe.s", "tracepoint", "tp", "tp_btf", "raw_tp",
    "raw_tracepoint", "perf_event", "socket", "sockops", "sk_msg", "sk_lookup", "classifier",
    "lirc_mode2", "lsm", "lsm.s", "fentry", "fentry.s", "fexit", "fexit.s", "freplace"]

def packetTypes : List String := ["xdp", "xdp.frags"]

/-- The places where a packet program can be attached, apart from a network interface. -/
def packetPlaces : List String := ["cpumap", "devmap"]

/-- The places where a program of a control group can be attached. -/
def groupPlaces : List String :=
  ["skb", "sysctl", "dev", "getsockopt", "setsockopt", "sock", "post_bind4", "post_bind6",
    "sock_create", "sock_release", "bind4", "bind6", "connect4", "connect6", "getpeername4",
    "getpeername6", "getsockname4", "getsockname6", "sendmsg4", "sendmsg6", "recvmsg4", "recvmsg6"]

/-- The types that have to name a place, with the places that they can name. -/
def placedTypes : List (String × List String) :=
  [("sk_skb", ["stream_parser", "stream_verdict"]),
    ("cgroup_skb", ["ingress", "egress"]),
    ("cgroup", groupPlaces)]

/-- The kind of program that a type stands for, in view of the second part, if there is one. -/
def ofType? (typeName : String) (place? : Option String) : Option ProgramType :=
  if typeName ∈ probeTypes then some .kernelProbe
  else if typeName ∈ freeTypes then some .other
  else if typeName ∈ packetTypes then
    if place?.all (· ∈ packetPlaces) then some .other else none
  else
    match placedTypes.lookup typeName, place? with
    | some places, some place => if place ∈ places then some .other else none
    | _, _ => none

/-- The type of the programs in a section with the given name, unless the name is invalid. -/
def ofSectionName? (name : String) : Option ProgramType :=
  match (Text.segments (· == '/') name.toList).map String.ofList with
  | [] => none
  | typeName :: rest => ofType? typeName rest.head?

end ProgramType

end SyscallTally.Kernel
