/-!
Rule fields. The value of a string field is the length of its text, which stands in the trailer of
the rule; every other field has a number.
-/

namespace LinuxAudit

inductive Field
  | pid
  | uid
  | euid
  | suid
  | fsuid
  | gid
  | egid
  | sgid
  | fsgid
  | loginUid
  | personality
  | arch
  | messageType
  | subjectUser
  | subjectRole
  | subjectType
  | subjectSensitivity
  | subjectClearance
  | ppid
  | objectUser
  | objectRole
  | objectType
  | objectLevelLow
  | objectLevelHigh
  | loginUidSet
  | sessionId
  | fileSystemType
  | deviceMajor
  | deviceMinor
  | inode
  | exit
  | success
  | path
  | access
  | tree
  | fileType
  | objectUid
  | objectGid
  | fieldComparison
  | executable
  | addressFamily
  | arg0
  | arg1
  | arg2
  | arg3
  | key
deriving DecidableEq

namespace Field

def all : List Field :=
  [pid, uid, euid, suid, fsuid, gid, egid, sgid, fsgid, loginUid, personality, arch, messageType,
   subjectUser, subjectRole, subjectType, subjectSensitivity, subjectClearance, ppid, objectUser,
   objectRole, objectType, objectLevelLow, objectLevelHigh, loginUidSet, sessionId,
   fileSystemType, deviceMajor, deviceMinor, inode, exit, success, path, access, tree, fileType,
   objectUid, objectGid, fieldComparison, executable, addressFamily, arg0, arg1, arg2, arg3, key]

def code : Field → UInt32
  | pid => 0
  | uid => 1
  | euid => 2
  | suid => 3
  | fsuid => 4
  | gid => 5
  | egid => 6
  | sgid => 7
  | fsgid => 8
  | loginUid => 9
  | personality => 10
  | arch => 11
  | messageType => 12
  | subjectUser => 13
  | subjectRole => 14
  | subjectType => 15
  | subjectSensitivity => 16
  | subjectClearance => 17
  | ppid => 18
  | objectUser => 19
  | objectRole => 20
  | objectType => 21
  | objectLevelLow => 22
  | objectLevelHigh => 23
  | loginUidSet => 24
  | sessionId => 25
  | fileSystemType => 26
  | deviceMajor => 100
  | deviceMinor => 101
  | inode => 102
  | exit => 103
  | success => 104
  | path => 105
  | access => 106
  | tree => 107
  | fileType => 108
  | objectUid => 109
  | objectGid => 110
  | fieldComparison => 111
  | executable => 112
  | addressFamily => 113
  | arg0 => 200
  | arg1 => 201
  | arg2 => 202
  | arg3 => 203
  | key => 210

/-- The name that a field is written with. -/
def name : Field → String
  | pid => "pid"
  | uid => "uid"
  | euid => "euid"
  | suid => "suid"
  | fsuid => "fsuid"
  | gid => "gid"
  | egid => "egid"
  | sgid => "sgid"
  | fsgid => "fsgid"
  | loginUid => "auid"
  | personality => "pers"
  | arch => "arch"
  | messageType => "msgtype"
  | subjectUser => "subj_user"
  | subjectRole => "subj_role"
  | subjectType => "subj_type"
  | subjectSensitivity => "subj_sen"
  | subjectClearance => "subj_clr"
  | ppid => "ppid"
  | objectUser => "obj_user"
  | objectRole => "obj_role"
  | objectType => "obj_type"
  | objectLevelLow => "obj_lev_low"
  | objectLevelHigh => "obj_lev_high"
  | loginUidSet => "loginuid_set"
  | sessionId => "sessionid"
  | fileSystemType => "fstype"
  | deviceMajor => "devmajor"
  | deviceMinor => "devminor"
  | inode => "inode"
  | exit => "exit"
  | success => "success"
  | path => "path"
  | access => "perm"
  | tree => "dir"
  | fileType => "filetype"
  | objectUid => "obj_uid"
  | objectGid => "obj_gid"
  | fieldComparison => "field_compare"
  | executable => "exe"
  | addressFamily => "saddr_fam"
  | arg0 => "a0"
  | arg1 => "a1"
  | arg2 => "a2"
  | arg3 => "a3"
  | key => "key"

def ofCode? (code : UInt32) : Option Field :=
  all.find? (·.code == code)

/-- Reads a field name. The login user id has a second name besides the written one. -/
def ofName? (name : String) : Option Field :=
  if name == "loginuid" then some loginUid else all.find? (·.name == name)

def isString : Field → Bool
  | subjectUser | subjectRole | subjectType | subjectSensitivity | subjectClearance |
  objectUser | objectRole | objectType | objectLevelLow | objectLevelHigh | path | tree |
  executable | key => true
  | _ => false

theorem ofCode?_code (field : Field) : ofCode? field.code = some field := by
  cases field <;> rfl

theorem ofName?_name (field : Field) : ofName? field.name = some field := by
  cases field <;> rfl

theorem code_of_ofCode? {code : UInt32} {field : Field} (h : ofCode? code = some field) :
    field.code = code := by
  simpa using List.find?_some h

end Field

end LinuxAudit
