import KwilDb.Core.Types
import KwilDb.Core.Serial
import KwilDb.Core.Files
import KwilDb.Migrations.Declaration
import KwilDb.Migrations.Resolve
import KwilDb.Migrations.Schedule
import KwilDb.Txapp.Mempool
import KwilDb.Txapp.Firewall
import KwilDb.Txapp.Pending
import KwilDb.Txapp.Ledger
import KwilDb.Txapp.Runs
import KwilDb.Txapp.Restarts
import KwilDb.Engine.Action
import KwilDb.Node.Restore
import KwilDb.Node.Admin
import KwilDb.Node.Boot
import KwilDb.Specifications.Migration
