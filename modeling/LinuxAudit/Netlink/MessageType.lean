/-!
Types of netlink and audit messages.
-/

namespace LinuxAudit

structure MessageType where
  code : UInt16
deriving DecidableEq

namespace MessageType

def error : MessageType := ⟨2⟩

def getStatus : MessageType := ⟨1000⟩

def setStatus : MessageType := ⟨1001⟩

def addRule : MessageType := ⟨1011⟩

def deleteRule : MessageType := ⟨1012⟩

def syscall : MessageType := ⟨1300⟩

def path : MessageType := ⟨1302⟩

def configChange : MessageType := ⟨1305⟩

def endOfEvent : MessageType := ⟨1320⟩

def processTitle : MessageType := ⟨1327⟩

/-- The types with a name, in ascending order. -/
def names : List (UInt16 × String) := [
  (1, "NOOP"), (2, "ERROR"), (3, "DONE"), (1000, "GET"), (1001, "SET"), (1002, "LIST"),
  (1003, "ADD"), (1004, "DEL"), (1005, "USER"), (1006, "LOGIN"), (1007, "WATCH_INS"),
  (1008, "WATCH_REM"), (1009, "WATCH_LIST"), (1010, "SIGNAL_INFO"), (1011, "ADD_RULE"),
  (1012, "DEL_RULE"), (1013, "LIST_RULES"), (1014, "TRIM"), (1015, "MAKE_EQUIV"),
  (1016, "TTY_GET"), (1017, "TTY_SET"), (1018, "SET_FEATURE"), (1019, "GET_FEATURE"),
  (1107, "USER_AVC"), (1124, "USER_TTY"), (1200, "DAEMON_START"), (1201, "DAEMON_END"),
  (1202, "DAEMON_ABORT"), (1203, "DAEMON_CONFIG"), (1300, "SYSCALL"), (1302, "PATH"),
  (1303, "IPC"), (1304, "SOCKETCALL"), (1305, "CONFIG_CHANGE"), (1306, "SOCKADDR"), (1307, "CWD"),
  (1309, "EXECVE"), (1311, "IPC_SET_PERM"), (1312, "MQ_OPEN"), (1313, "MQ_SENDRECV"),
  (1314, "MQ_NOTIFY"), (1315, "MQ_GETSETATTR"), (1316, "KERNEL_OTHER"), (1317, "FD_PAIR"),
  (1318, "OBJ_PID"), (1319, "TTY"), (1320, "EOE"), (1321, "BPRM_FCAPS"), (1322, "CAPSET"),
  (1323, "MMAP"), (1324, "NETFILTER_PKT"), (1325, "NETFILTER_CFG"), (1326, "SECCOMP"),
  (1327, "PROCTITLE"), (1328, "FEATURE_CHANGE"), (1329, "REPLACE"), (1330, "KERN_MODULE"),
  (1331, "FANOTIFY"), (1332, "TIME_INJOFFSET"), (1333, "TIME_ADJNTPVAL"), (1334, "BPF"),
  (1335, "EVENT_LISTENER"), (1336, "URINGOP"), (1337, "OPENAT2"), (1338, "DM_CTRL"),
  (1339, "DM_EVENT"), (1400, "AVC"), (1401, "SELINUX_ERR"), (1402, "AVC_PATH"),
  (1403, "MAC_POLICY_LOAD"), (1404, "MAC_STATUS"), (1405, "MAC_CONFIG_CHANGE")]

def name? (type : MessageType) : Option String :=
  (names.find? (·.1 == type.code)).map (·.2)

def ofName? (name : String) : Option MessageType :=
  (names.find? (·.2 == name)).map (⟨·.1⟩)

/-- The name of a type, or its number where it has none. -/
def label (type : MessageType) : String :=
  match type.name? with
  | some name => name
  | none => "UNKNOWN[" ++ toString type.code.toNat ++ "]"

/-- Records that belong to a larger event and wait for its end marker. -/
def isContinuation (type : MessageType) : Bool :=
  type == path || type == processTitle

/-- Records of events, as opposed to replies to requests. -/
def isRecord (type : MessageType) : Bool :=
  type.code.toNat ≥ 1100

/-- Messages of netlink itself, as opposed to audit messages. -/
def isControl (type : MessageType) : Bool :=
  type.code.toNat < 16

end MessageType

end LinuxAudit
