import LinuxAudit.Abi
import LinuxAudit.Abi.Machine
import LinuxAudit.Abi.Syscalls.Aarch64
import LinuxAudit.Abi.Syscalls.I386
import LinuxAudit.Abi.Syscalls.X8664
import LinuxAudit.Bytes
import LinuxAudit.Channel.Basic
import LinuxAudit.Channel.Error
import LinuxAudit.Channel.Kernel
import LinuxAudit.Channel.Script
import LinuxAudit.Channel.Transport
import LinuxAudit.CommandLine
import LinuxAudit.CommandLine.Usage
import LinuxAudit.Errno
import LinuxAudit.Event.Basic
import LinuxAudit.Event.Id
import LinuxAudit.Failure
import LinuxAudit.Log
import LinuxAudit.Main
import LinuxAudit.Netlink.Datagram
import LinuxAudit.Netlink.Message
import LinuxAudit.Netlink.MessageType
import LinuxAudit.Proofs.Abi.Numbering
import LinuxAudit.Proofs.Bytes
import LinuxAudit.Proofs.Channel.Chronicle
import LinuxAudit.Proofs.Channel.Completion
import LinuxAudit.Proofs.Channel.Conservation
import LinuxAudit.Proofs.Channel.Grouping
import LinuxAudit.Proofs.Channel.Handover
import LinuxAudit.Proofs.Channel.Kernel
import LinuxAudit.Proofs.Channel.Listening
import LinuxAudit.Proofs.Channel.Operation
import LinuxAudit.Proofs.Channel.Refinement
import LinuxAudit.Proofs.Channel.ReplyOrder
import LinuxAudit.Proofs.Channel.Stream
import LinuxAudit.Proofs.Event.Record
import LinuxAudit.Proofs.Netlink.Accounting
import LinuxAudit.Proofs.Netlink.Batch
import LinuxAudit.Proofs.Netlink.Frame
import LinuxAudit.Proofs.Netlink.Framing
import LinuxAudit.Proofs.Netlink.Solitary
import LinuxAudit.Proofs.Outcome
import LinuxAudit.Proofs.Rule.Clauses
import LinuxAudit.Proofs.Rule.Drafting
import LinuxAudit.Proofs.Rule.Edits
import LinuxAudit.Proofs.Rule.Expression
import LinuxAudit.Proofs.Rule.Layout
import LinuxAudit.Proofs.Rule.Limits
import LinuxAudit.Proofs.Rule.NumberOperand
import LinuxAudit.Proofs.Rule.Reading
import LinuxAudit.Proofs.Rule.Rereading
import LinuxAudit.Proofs.Rule.Selecting
import LinuxAudit.Proofs.Rule.Sketch
import LinuxAudit.Proofs.Rule.Splitting
import LinuxAudit.Proofs.Rule.Succeeding
import LinuxAudit.Proofs.Rule.Typed
import LinuxAudit.Proofs.Rule.WireFormat
import LinuxAudit.Proofs.Settings.Applying
import LinuxAudit.Proofs.Settings.Merging
import LinuxAudit.Proofs.Status
import LinuxAudit.Proofs.Text.Numeral
import LinuxAudit.Proofs.Text.Utf8
import LinuxAudit.Report.StatusTable
import LinuxAudit.Report.Table
import LinuxAudit.Rule.Access
import LinuxAudit.Rule.Basic
import LinuxAudit.Rule.Clause
import LinuxAudit.Rule.Draft
import LinuxAudit.Rule.Error
import LinuxAudit.Rule.Field
import LinuxAudit.Rule.Operator
import LinuxAudit.Rule.SyscallSet
import LinuxAudit.Rule.Target
import LinuxAudit.Rule.Wire
import LinuxAudit.Session
import LinuxAudit.Settings.Basic
import LinuxAudit.Settings.Ini
import LinuxAudit.Settings.Section
import LinuxAudit.Status
import LinuxAudit.Text.CharClass
import LinuxAudit.Text.CharWidth
import LinuxAudit.Text.Cut
import LinuxAudit.Text.Emoji
import LinuxAudit.Text.Ligature
import LinuxAudit.Text.Numeral
import LinuxAudit.Text.Quoted
import LinuxAudit.Text.Utf8
import LinuxAudit.Text.Width
