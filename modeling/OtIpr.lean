import OtIpr.Lib.Machine
import OtIpr.Identifier
import OtIpr.Coap.Permissions
import OtIpr.Coap.Sender
import OtIpr.Coap.Handshake
import OtIpr.Coap.ResourceName
import OtIpr.Coap.Recovery
import OtIpr.Coap.Buffers
import OtIpr.Opt3001
import OtIpr.Hal.Clock
import OtIpr.Hal.Wait
import OtIpr.Lib.Toggle
import OtIpr.Radar.Confidence
import OtIpr.Radar.Range
import OtIpr.Radar.Interval
import OtIpr.Radar.Latency
import OtIpr.Radar.Reports
import OtIpr.Radar.Body
import OtIpr.Radar.Hysteresis
import OtIpr.Radar.Boundary
import OtIpr.Radar.Presence
import OtIpr.Radar.Delivery
import OtIpr.Radar.Measurement
import OtIpr.Radar.Float
import OtIpr.Radar.LightLevel
import OtIpr.Radar.Init
import OtIpr.Hal.WakeUp
import OtIpr.Hal.SensorWait
