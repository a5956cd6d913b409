import DriveTribe.Base.Run
import DriveTribe.Base.TwoRun
import DriveTribe.Base.Outbox
import DriveTribe.Base.Idle
import DriveTribe.Base.Document
import DriveTribe.Base.Separated
import DriveTribe.Models.User
import DriveTribe.Relations.Operations
import DriveTribe.Relations.Session
import DriveTribe.Relations.System
import DriveTribe.Relations.Agreement
import DriveTribe.Relations.Blocking
import DriveTribe.Relations.Consent
import DriveTribe.Relations.Complete
import DriveTribe.Relations.Ownership
import DriveTribe.Relations.Exclusive
import DriveTribe.Relations.Reports
import DriveTribe.Models.Carpool
import DriveTribe.Carpools.Controller
import DriveTribe.Carpools.Chat
import DriveTribe.Carpools.Listener
import DriveTribe.Carpools.System
import DriveTribe.Carpools.Registers
import DriveTribe.Carpools.Tracked
import DriveTribe.Carpools.Membership
import DriveTribe.Carpools.Separation
import DriveTribe.Carpools.Flow
import DriveTribe.Carpools.Creation
import DriveTribe.Sessions.Process
import DriveTribe.Sessions.Isolation
import DriveTribe.Helper.RouteCreator
import DriveTribe.Accounts.Updates
import DriveTribe.Accounts.NewAccounts
import DriveTribe.Accounts.System
import DriveTribe.Accounts.Drawn
import DriveTribe.Accounts.Readable
import DriveTribe.Accounts.Location
import DriveTribe.Base.Product
import DriveTribe.Accounts.Pairs
import DriveTribe.Accounts.Rows
import DriveTribe.Carpools.Passengers
import DriveTribe.Service.System
import DriveTribe.Service.Lists
import DriveTribe.Service.Selection
import DriveTribe.Deletion.System
import DriveTribe.Deletion.Departure
import DriveTribe.Deletion.Matching
import DriveTribe.Base.StableSort
import DriveTribe.Carpools.Order
import DriveTribe.Carpools.Leftovers
import DriveTribe.Base.Requests
import DriveTribe.Carpools.Reports
import DriveTribe.Carpools.AllOrNothing
import DriveTribe.Sessions.Leaving
import DriveTribe.Deletion.Failure
import DriveTribe.Accounts.Registry
import DriveTribe.Accounts.Copies
import DriveTribe.Accounts.Archive
import DriveTribe.Accounts.RepeatRequest
import DriveTribe.Friends.Fetch
import DriveTribe.Friends.List
import DriveTribe.Friends.Removed
import DriveTribe.Helper.Waypoints
import DriveTribe.Accounts.Reads
import DriveTribe.Friends.Table
import DriveTribe.Friends.Search
import DriveTribe.Carpools.Swipes
import DriveTribe.Carpools.StartRoute
import DriveTribe.Accounts.Profile
import DriveTribe.Relations.Repeat
import DriveTribe.Carpools.Repeat
import DriveTribe.Service.Repeat
import DriveTribe.Relations.Network
import DriveTribe.Friends.Network
import DriveTribe.Carpools.WellFormed
import DriveTribe.Base.Rows
import DriveTribe.Pictures.Storage
import DriveTribe.Pictures.Rows
import DriveTribe.Chats.Authors
import DriveTribe.Chats.Sending
import DriveTribe.Carpools.Listing
import DriveTribe.Carpools.OpenedRoute
import DriveTribe.Friends.Blocked
import DriveTribe.Places.Pins
import DriveTribe.Accounts.Submitted
import DriveTribe.Chats.Progress
import DriveTribe.Service.Progress
