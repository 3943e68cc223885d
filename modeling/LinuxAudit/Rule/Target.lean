/-!
Where a rule is hooked in and what it decides: the filter list that holds it and the action taken
when it matches.
-/

namespace LinuxAudit

inductive FilterList
  | user
  | task
  | entry
  | watch
  | exit
  | exclude
  | filesystem
  | ioUring
deriving DecidableEq

namespace FilterList

def all : List FilterList :=
  [user, task, entry, watch, exit, exclude, filesystem, ioUring]

def code : FilterList → UInt32
  | user => 0
  | task => 1
  | entry => 2
  | watch => 3
  | exit => 4
  | exclude => 5
  | filesystem => 6
  | ioUring => 7

def name : FilterList → String
  | user => "user"
  | task => "task"
  | entry => "entry"
  | watch => "watch"
  | exit => "exit"
  | exclude => "exclude"
  | filesystem => "filesystem"
  | ioUring => "io_uring"

def ofCode? (code : UInt32) : Option FilterList :=
  all.find? (·.code == code)

def ofName? (name : String) : Option FilterList :=
  all.find? (·.name == name)

theorem ofCode?_code (list : FilterList) : ofCode? list.code = some list := by
  cases list <;> rfl

theorem ofName?_name (list : FilterList) : ofName? list.name = some list := by
  cases list <;> rfl

theorem code_of_ofCode? {code : UInt32} {list : FilterList} (h : ofCode? code = some list) :
    list.code = code := by
  simpa using List.find?_some h

end FilterList

inductive Action
  | never
  | possible
  | always
deriving DecidableEq

namespace Action

def all : List Action :=
  [never, possible, always]

def code : Action → UInt32
  | never => 0
  | possible => 1
  | always => 2

def name : Action → String
  | never => "never"
  | possible => "possible"
  | always => "always"

def ofCode? (code : UInt32) : Option Action :=
  all.find? (·.code == code)

def ofName? (name : String) : Option Action :=
  all.find? (·.name == name)

theorem ofCode?_code (action : Action) : ofCode? action.code = some action := by
  cases action <;> rfl

theorem ofName?_name (action : Action) : ofName? action.name = some action := by
  cases action <;> rfl

theorem code_of_ofCode? {code : UInt32} {action : Action} (h : ofCode? code = some action) :
    action.code = code := by
  simpa using List.find?_some h

end Action

end LinuxAudit
