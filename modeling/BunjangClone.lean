import BunjangClone.Reactive.Machine
import BunjangClone.Reactive.Pending
import BunjangClone.Reactive.Numbering
import BunjangClone.Reactive.Cells
import BunjangClone.Paging.Feed
import BunjangClone.DataManager
import BunjangClone.Home.Pager
import BunjangClone.Home.Stays
import BunjangClone.Home.Repeats
import BunjangClone.Home.Order
import BunjangClone.Category.Screen
import BunjangClone.Category.Expand
import BunjangClone.Following.Controller
import BunjangClone.Following.Follows
import BunjangClone.Following.Icons
import BunjangClone.Following.Tables
import BunjangClone.Numeral.Reading
import BunjangClone.Register.Controller
import BunjangClone.Register.Submission
import BunjangClone.Register.Storage
import BunjangClone.Session.App
import BunjangClone.Session.Overlay
import BunjangClone.Session.DeadScreen
import BunjangClone.Session.Token
import BunjangClone.Session.Members
import BunjangClone.Register.CategoryPath
import BunjangClone.Following.Dispatch
import BunjangClone.Following.Segments
import BunjangClone.Following.Content
import BunjangClone.Following.Toggle
import BunjangClone.Following.Display
import BunjangClone.Register.Acceptance
import BunjangClone.Detail.Screen
import BunjangClone.Detail.Slots
import BunjangClone.Extension.Substring
import BunjangClone.Numeral.Grouping
import BunjangClone.Numeral.Rounding
import BunjangClone.Extension.Comma
import BunjangClone.Browsing.Bookkeeping
import BunjangClone.Browsing.Categories
import BunjangClone.Browsing.Display
import BunjangClone.Browsing.Home
import BunjangClone.Browsing.Path
import BunjangClone.Browsing.Window
import BunjangClone.Following.Feed
import BunjangClone.Following.Delivery
import BunjangClone.Reactive.Conservation
import BunjangClone.Register.Accounting
import BunjangClone.Register.Tab
import BunjangClone.Register.Window
import BunjangClone.Register.Posting
import BunjangClone.Session.Keychain
import BunjangClone.Session.TabBars
import BunjangClone.Following.Window
import BunjangClone.Keychain.History
import BunjangClone.Reactive.Lock
import BunjangClone.Keychain.Threads
import BunjangClone.Session.Logins
import BunjangClone.Session.Device
