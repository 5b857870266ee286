import Inception.Context
import Inception.Diagnostics
import Inception.Sysvars
import Inception.Text
import Inception.Parse
import Inception.RemoteSql
import Inception.Remote
import Inception.Audit.ProbeText
import Inception.Ast
import Inception.Tree
import Inception.Tree.Coverage
import Inception.Tree.Json
import Inception.Log
import Inception.Exec.Engine
import Inception.Exec.Safety
import Inception.Exec.Progress
import Inception.Audit.Rules
import Inception.Audit.Handlers
import Inception.Audit.Effects
import Inception.Audit.Schema
import Inception.Audit.Existence
import Inception.Audit.Reports
import Inception.Audit.Records
import Inception.Audit.Columns
import Inception.Audit.Modes
import Inception.Session.Hooks
import Inception.Session.Profile
import Inception.Session.Probes
import Inception.Session.Split
import Inception.Session.Admin
import Inception.Session.Commands
import Inception.Session.StartMarker
import Inception.Session.Groups
import Inception.Session.Execute
import Inception.Session.Commit
import Inception.Session.Results
import Inception.Session.Preview
import Inception.Session.Levels
import Inception.Session.Registry
import Inception.Session.System
import Inception.Session.Reply
import Inception.Exec.AuditTrail
